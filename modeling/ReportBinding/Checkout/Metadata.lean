import ReportBinding.Checkout.Fault
import ReportBinding.Files.Access
import ReportBinding.Text.Blank
import ReportBinding.Text.Lines

/-!
# Metadata of git checkouts

A checkout owns a directory `.git`, or a file `.git` that points to its
metadata elsewhere.  References are looked up as files of their own, in the
metadata and then in the directory that work trees share, and last in the list
of packed references.
-/

namespace ReportBinding
namespace Checkout

open Files

/-- What stands in front of the path of metadata elsewhere. -/
def pointerMark : String := "gitdir:"

/-- What stands in front of the name of another reference. -/
def referenceMark : String := "ref:"

/-- The path that the text of a pointer file names. -/
def pointerTarget? (text : String) : Option String :=
  match Text.after? pointerMark.toList (Text.trimmed text.toList) with
  | some rest =>
      let target := Text.trimmed rest
      if target.isEmpty then none else some (String.ofList target)
  | none => none

/-- The directory that holds the metadata of a checkout. -/
def metadataDirectory (files : FileSystem) (checkout : HostText) :
    Except Fault HostText :=
  let marker := Path.join checkout ".git"
  if !files.isDirectory checkout then .error .notDirectory
  else if !files.hasEntry marker then .error .noMetadata
  else if files.isDirectory marker then .ok marker
  else match files.readText marker with
    | .error fault => .error (.unreadablePointer fault)
    | .ok text =>
        match pointerTarget? text with
        | none => .error .noPointer
        | some target =>
            let directory := Path.join checkout target
            if files.isDirectory directory then .ok directory
            else .error (.danglingPointer directory)

/-- The directory of the metadata that work trees share. -/
def sharedDirectory (files : FileSystem) (metadata : HostText) :
    HostText :=
  match files.readText (Path.join metadata "commondir") with
  | .ok text =>
      let shared := Text.trimmed text.toList
      if shared.isEmpty then metadata
      else Path.join metadata (String.ofList shared)
  | .error _ => metadata

/-- The parts of a text before and behind its first blank. -/
def splitAtBlank? : List Char → Option (List Char × List Char)
  | [] => none
  | ' ' :: rest => some ([], rest)
  | character :: rest =>
      (splitAtBlank? rest).map fun (before, behind) =>
        (character :: before, behind)

/-- The id and the name on a line of packed references.  Lines of comments and
lines about the reference before them have none. -/
def packedEntry? (line : List Char) : Option (List Char × List Char) :=
  match line with
  | '#' :: _ => none
  | '^' :: _ => none
  | _ =>
      (splitAtBlank? line).map fun (id, name) =>
        (Text.trimmed id, Text.trimmed name)

/-- The id that a list of packed references has for a name. -/
def packedId? (packed name : String) : Option String :=
  (((Text.linesOf packed.toList).filterMap packedEntry?).find?
    fun entry => entry.2 == name.toList).map fun entry =>
      String.ofList entry.1

/-- The id that the packed references in a directory have for a name. -/
def lookUpPacked (files : FileSystem) (shared : HostText) (name : String) :
    Option String :=
  match files.readText (Path.join shared "packed-refs") with
  | .ok packed => packedId? packed name
  | .error _ => none

/-- The text of the file that holds a reference alone, if there is a file and
it can be read. -/
def looseText? (files : FileSystem) (metadata shared : HostText)
    (name : String) : Option String :=
  match [Path.join metadata name, Path.join shared name].find? files.isFile with
  | some path =>
      match files.readText path with
      | .ok text => some text
      | .error _ => none
  | none => none

/-- What a reference holds. -/
def held? (files : FileSystem) (metadata shared : HostText) (name : String) :
    Option String :=
  match looseText? files metadata shared name with
  | some text => some (Text.trim text)
  | none => lookUpPacked files shared name

/-- The name of the reference that a text refers to. -/
def referred? (text : String) : Option String :=
  (Text.after? referenceMark.toList text.toList).map fun rest =>
    String.ofList (Text.trimmed rest)

/-- Follow a reference to the text that it stands for.  The first argument
bounds the number of references on the way. -/
def follow (files : FileSystem) (metadata shared : HostText) :
    Nat → String → Except Fault String
  | 0, name => .error (.endless name)
  | count + 1, name =>
      match held? files metadata shared name with
      | none => .error (.unborn name)
      | some text =>
          match referred? text with
          | some next => follow files metadata shared count next
          | none => .ok text

/-- The greatest number of references on the way to a commit. -/
def maximumReferences : Nat := 5

/-- The text that the head of a checkout stands for. -/
def headText (files : FileSystem) (metadata : HostText) : Except Fault String :=
  match files.readText (Path.join metadata "HEAD") with
  | .error fault => .error (.unreadableHead fault)
  | .ok text =>
      let head := Text.trim text
      match referred? head with
      | some name =>
          follow files metadata (sharedDirectory files metadata)
            maximumReferences name
      | none => .ok head

/-- The revision that the metadata of a checkout tells. -/
def readRevision (files : FileSystem) (checkout : HostText) :
    Except Fault RevisionId := do
  let metadata ← metadataDirectory files checkout
  let text ← headText files metadata
  match RevisionId.parse text with
  | .ok id => .ok id
  | .error fault => .error (.invalidId fault)

end Checkout
end ReportBinding
