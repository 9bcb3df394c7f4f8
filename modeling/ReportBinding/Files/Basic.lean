import Std.Data.ExtTreeMap
import ReportBinding.Bytes
import ReportBinding.Files.Fault
import ReportBinding.Files.Path

/-!
# File systems

A file system is a finite map from locations to entries, with a working
directory that relative paths start from.  Two file systems with the same
entries are equal.  Lookups walk a path name by name and follow symbolic links,
at most `maximumLinks` of them.

Permissions stand with regular files alone: a file can be opened, for reading
and for writing, or it cannot.  Directories let everybody look names up, add
and remove them.
-/

namespace ReportBinding

/-- Where an entry is: the names that lead to it from the root, outermost
first. -/
abbrev Location := List HostText

/-- What stands at a location. -/
inductive Entry where
  /-- A directory.  What it holds stands at the locations below it. -/
  | directory
  /-- A regular file, which may be marked as a program. -/
  | file (content : Bytes) (executable : Bool)
  /-- A regular file that opens, but fails to be read behind its first bytes. -/
  | damaged (lead : Bytes)
  /-- A regular file that nobody is permitted to open or to run. -/
  | sealed
  /-- A symbolic link, as the path that it points to. -/
  | link (target : HostText)
deriving DecidableEq, Repr

/-- The entries of a host and the directory that relative paths start from. -/
structure FileSystem where
  entries : Std.ExtTreeMap Location Entry
  workingDirectory : Location

namespace Files

/-- How many symbolic links one lookup follows. -/
def maximumLinks : Nat := 40

/-- The greatest number of bytes in one name. -/
def maximumNameLength : Nat := 255

/-- The number of bytes from which on a whole path is refused. -/
def pathLengthLimit : Nat := 4096

/-- The end of a lookup. -/
inductive Place where
  /-- An entry stands at the location. -/
  | occupied (location : Location) (entry : Entry)
  /-- Nothing stands at the location, but its directory exists. -/
  | vacant (location : Location)
deriving DecidableEq, Repr

end Files

namespace FileSystem

open Files

/-- The file system that holds nothing but its root. -/
def empty : FileSystem := ⟨∅, []⟩

/-- The entry at a location.  The root is a directory always. -/
def entry? (files : FileSystem) (location : Location) : Option Entry :=
  if location.isEmpty then some .directory else files.entries[location]?

/-- Put an entry at a location. -/
def put (files : FileSystem) (location : Location) (entry : Entry) :
    FileSystem :=
  { files with entries := files.entries.insert location entry }

/-- Leave nothing at a location. -/
def drop (files : FileSystem) (location : Location) : FileSystem :=
  { files with entries := files.entries.erase location }

/-- Leave nothing at a location or below it. -/
def dropTree (files : FileSystem) (location : Location) : FileSystem :=
  { files with
    entries := files.entries.filter fun other _ => !location.isPrefixOf other }

/-- What stands at a location and below it, by the names behind the
location. -/
def tree (files : FileSystem) (location : Location) :
    List (List HostText × Entry) :=
  files.entries.toList.filterMap fun (other, entry) =>
    if location.isPrefixOf other then
      some (other.drop location.length, entry)
    else none

/-- Move what stands at a location and below it to another location. -/
def moveTree (files : FileSystem) (source target : Location) : FileSystem :=
  (files.tree source).foldl (fun files (names, entry) =>
    files.put (target ++ names) entry) (files.dropTree source)

/-- Walk names from a directory.  `enter` continues the walk behind a symbolic
link, and a link under the last name is followed only if `follow` is set. -/
def walkNames (files : FileSystem) (follow : Bool)
    (enter : Location → List HostText → Except Fault Place) :
    Location → List HostText → Except Fault Place
  | location, [] => .ok (.occupied location .directory)
  | location, name :: rest =>
      if name = Path.here then walkNames files follow enter location rest
      else if name = Path.above then
        walkNames files follow enter location.dropLast rest
      else if maximumNameLength < name.octets.length then .error .nameTooLong
      else
        let next := location ++ [name]
        match files.entry? next with
        | none =>
            if rest.isEmpty then .ok (.vacant next) else .error .notFound
        | some .directory => walkNames files follow enter next rest
        | some (.link target) =>
            if rest.isEmpty && !follow then
              .ok (.occupied next (.link target))
            else
              enter (if Path.isAbsolute target then [] else location)
                (Path.steps target ++ rest)
        | some entry =>
            if rest.isEmpty then .ok (.occupied next entry)
            else .error .notDirectory

/-- Walk names from a directory, behind at most the given number of links. -/
def walk (files : FileSystem) (follow : Bool) :
    Nat → Location → List HostText → Except Fault Place
  | 0 => files.walkNames follow fun _ _ => .error .tooManyLinks
  | links + 1 => files.walkNames follow (files.walk follow links)

/-- The directory that the walk of a path starts from. -/
def origin (files : FileSystem) (path : HostText) : Location :=
  if Path.isAbsolute path then [] else files.workingDirectory

/-- Refuse the paths that no lookup is made for. -/
def checkPath (path : HostText) : Except Fault Unit :=
  if path.octets.contains 0 then .error .nulInPath
  else if path.octets.isEmpty then .error .notFound
  else if pathLengthLimit ≤ path.octets.length then .error .nameTooLong
  else .ok ()

/-- Where a path leads.  `follow` decides on a symbolic link at its end. -/
def resolve (files : FileSystem) (follow : Bool) (path : HostText) :
    Except Fault Place :=
  match checkPath path with
  | .error fault => .error fault
  | .ok () =>
      files.walk follow maximumLinks (files.origin path) (Path.steps path)

/-- The entry that a path leads to, behind all links. -/
def find (files : FileSystem) (path : HostText) : Except Fault Entry :=
  match files.resolve true path with
  | .ok (.occupied _ entry) => .ok entry
  | .ok (.vacant _) => .error .notFound
  | .error fault => .error fault

/-- Whether a path leads to anything. -/
def hasEntry (files : FileSystem) (path : HostText) : Bool :=
  match files.find path with
  | .ok _ => true
  | .error _ => false

/-- Whether a path leads to a directory. -/
def isDirectory (files : FileSystem) (path : HostText) : Bool :=
  match files.find path with
  | .ok .directory => true
  | _ => false

/-- Whether a path leads to a regular file. -/
def isFile (files : FileSystem) (path : HostText) : Bool :=
  match files.find path with
  | .ok (.file _ _) => true
  | .ok (.damaged _) => true
  | .ok .sealed => true
  | _ => false

/-- The entries below the working directory, in the order of a walk that
visits siblings by name and a directory before what it holds. -/
def listing (files : FileSystem) : List (HostText × Entry) :=
  (files.tree files.workingDirectory).filterMap fun (names, entry) =>
    if names.isEmpty then none
    else some (Path.ofNames false names, entry)

end FileSystem
end ReportBinding
