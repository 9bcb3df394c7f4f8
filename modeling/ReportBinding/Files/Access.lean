import ReportBinding.Files.Basic
import ReportBinding.Text.Utf8

/-!
# Reading and changing files

Each operation takes a path and either refuses with a fault, and then changes
nothing, or answers with the content read or the file system that results.
-/

namespace ReportBinding
namespace FileSystem

open Files

/-- The bytes of the file that a path leads to. -/
def read (files : FileSystem) (path : HostText) : Except Fault Bytes :=
  match files.find path with
  | .ok (.file content _) => .ok content
  | .ok (.damaged _) => .error .inputOutput
  | .ok .sealed => .error .permissionDenied
  | .ok _ => .error .isDirectory
  | .error fault => .error fault

/-- The text of the file that a path leads to. -/
def readText (files : FileSystem) (path : HostText) : Except Fault String :=
  match files.read path with
  | .ok content =>
      match Text.Utf8.decode? content with
      | some text => .ok text
      | none => .error .invalidText
  | .error fault => .error fault

/-- The refusal to create a file under a path that ends in a slash: a fault on
the way there, or else that a directory would have to stand there. -/
def refuseSlash (files : FileSystem) (path : HostText) : Fault :=
  let outer := (Path.names path).dropLast ++ [Path.here]
  match files.walk true maximumLinks (files.origin path) outer with
  | .error fault => fault
  | .ok _ => .isDirectory

/-- The file that an operation which creates files on demand works on: where it
is, and its content and program mark so far. -/
def openToWrite (files : FileSystem) (path : HostText) :
    Except Fault (Location × Bytes × Bool) :=
  match checkPath path with
  | .error fault => .error fault
  | .ok () =>
      if Path.endsInSlash path then .error (files.refuseSlash path)
      else match files.resolve true path with
        | .ok (.vacant location) => .ok (location, [], false)
        | .ok (.occupied location (.file content executable)) =>
            .ok (location, content, executable)
        | .ok (.occupied _ (.damaged _)) => .error .inputOutput
        | .ok (.occupied _ .sealed) => .error .permissionDenied
        | .ok (.occupied _ _) => .error .isDirectory
        | .error fault => .error fault

/-- Make a file hold exactly the given bytes, creating it if need be. -/
def write (files : FileSystem) (path : HostText) (content : Bytes) :
    Except Fault FileSystem :=
  match files.openToWrite path with
  | .ok (location, _, executable) =>
      .ok (files.put location (.file content executable))
  | .error fault => .error fault

/-- Add bytes to the end of a file, creating it if need be. -/
def append (files : FileSystem) (path : HostText) (content : Bytes) :
    Except Fault FileSystem :=
  match files.openToWrite path with
  | .ok (location, present, executable) =>
      .ok (files.put location (.file (present ++ content) executable))
  | .error fault => .error fault

/-- Say whether a file is marked as a program. -/
def mark (files : FileSystem) (path : HostText) (executable : Bool) :
    Except Fault FileSystem :=
  match files.resolve true path with
  | .ok (.occupied location (.file content _)) =>
      .ok (files.put location (.file content executable))
  | .ok (.occupied _ _) => .ok files
  | .ok (.vacant _) => .error .notFound
  | .error fault => .error fault

/-- Mark a file as a program. -/
def markExecutable (files : FileSystem) (path : HostText) :
    Except Fault FileSystem :=
  files.mark path true

/-- What the last name of a path itself stands for, links included. -/
def findNamed (files : FileSystem) (path : HostText) : Except Fault Place :=
  match checkPath path with
  | .error fault => .error fault
  | .ok () =>
      files.walk false maximumLinks (files.origin path) (Path.names path)

/-- Remove the file or the symbolic link under a path. -/
def remove (files : FileSystem) (path : HostText) : Except Fault FileSystem :=
  match files.findNamed path with
  | .ok (.occupied _ .directory) => .error .isDirectory
  | .ok (.occupied location _) =>
      if Path.endsInSlash path then .error .notDirectory
      else .ok (files.drop location)
  | .ok (.vacant _) => .error .notFound
  | .error fault => .error fault

/-- Remove what a path names: a directory with all that it holds, else the file
or the symbolic link itself. -/
def removeAll (files : FileSystem) (path : HostText) :
    Except Fault FileSystem :=
  match files.findNamed path with
  | .ok (.occupied location .directory) => .ok (files.dropTree location)
  | .ok (.occupied location _) =>
      if Path.endsInSlash path then .error .notDirectory
      else .ok (files.drop location)
  | .ok (.vacant _) => .error .notFound
  | .error fault => .error fault

/-- Remove a directory that holds nothing. -/
def removeDirectory (files : FileSystem) (path : HostText) :
    Except Fault FileSystem :=
  match files.findNamed path with
  | .ok (.occupied location .directory) =>
      if (files.tree location).length ≤ 1 then .ok (files.drop location)
      else .error .directoryNotEmpty
  | .ok (.occupied _ _) => .error .notDirectory
  | .ok (.vacant _) => .error .notFound
  | .error fault => .error fault

/-- Put a new entry under a path whose last name is free. -/
def createEntry (files : FileSystem) (path : HostText) (entry : Entry) :
    Except Fault FileSystem :=
  match files.findNamed path with
  | .ok (.vacant location) => .ok (files.put location entry)
  | .ok (.occupied _ _) => .error .alreadyExists
  | .error fault => .error fault

/-- Create one directory. -/
def createDirectory (files : FileSystem) (path : HostText) :
    Except Fault FileSystem :=
  files.createEntry path .directory

/-- Create a symbolic link under a path. -/
def createLink (files : FileSystem) (target path : HostText) :
    Except Fault FileSystem :=
  match checkPath target with
  | .error fault => .error fault
  | .ok () =>
      match files.createEntry path (.link target) with
      | .ok linked =>
          if Path.endsInSlash path then .error .notFound else .ok linked
      | .error fault => .error fault

/-- Create the directory that the given names lead to, innermost first, and the
directories around it as needed.  What was created before a refusal stays. -/
def createDirectoryTree (absolute : Bool) :
    List HostText → FileSystem → Except Fault Unit × FileSystem
  | [], files => (.ok (), files)
  | name :: outer, files =>
      let path := Path.ofNames absolute (name :: outer).reverse
      match files.createDirectory path with
      | .ok files => (.ok (), files)
      | .error .notFound =>
          match createDirectoryTree absolute outer files with
          | (.error fault, files) => (.error fault, files)
          | (.ok (), files) =>
              match files.createDirectory path with
              | .ok files => (.ok (), files)
              | .error fault =>
                  (if files.isDirectory path then .ok () else .error fault,
                    files)
      | .error fault =>
          (if files.isDirectory path then .ok () else .error fault, files)

/-- Create the directory under a path and the directories around it. -/
def createDirectories (files : FileSystem) (path : HostText) :
    Except Fault Unit × FileSystem :=
  createDirectoryTree (Path.isAbsolute path)
    ((Path.names path).filter (· ≠ Path.here)).reverse files

end FileSystem
end ReportBinding
