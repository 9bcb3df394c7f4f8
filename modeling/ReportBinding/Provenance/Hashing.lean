import ReportBinding.Error
import ReportBinding.Files.Basic

/-!
# Hashing input files

A file is read piece by piece into the digest.  A read may be interrupted, and
is then tried again, or fail, which fails the whole; a read of no bytes is the
end of the file.
-/

namespace ReportBinding

/-- What one source of bytes does next. -/
inductive ReadEvent where
  /-- Bytes arrive; none means the end. -/
  | data (bytes : Bytes)
  /-- A read is interrupted. -/
  | interrupted
  /-- A read fails. -/
  | failed (fault : Files.Fault)
deriving DecidableEq, Repr

namespace FileDigest

/-- A SHA-256 digest under way. -/
abbrev Stream := Hash.Chaining.Stream Hash.Sha256.chaining

/-- The greatest number of bytes that one read delivers. -/
def readLength : Nat := 64 * 1024

/-- The digest of a stream at its end. -/
def ofStream (stream : Stream) : FileDigest :=
  ⟨stream.finish, Hash.Sha256.length_bytes _⟩

/-- Take what a source delivers into a digest under way. -/
def hashEventsFrom (stream : Stream) :
    List ReadEvent → Except Files.Fault FileDigest
  | [] => .ok (ofStream stream)
  | .data [] :: _ => .ok (ofStream stream)
  | .data bytes :: rest =>
      hashEventsFrom
        ((Bytes.pieces readLength bytes).foldl
          Hash.Chaining.Stream.update stream) rest
  | .interrupted :: rest => hashEventsFrom stream rest
  | .failed fault :: _ => .error fault

/-- The digest of what a source delivers. -/
def hashEvents (events : List ReadEvent) : Except Files.Fault FileDigest :=
  hashEventsFrom Hash.Chaining.Stream.start events

end FileDigest

namespace FileSystem

/-- Open the file that a path leads to, for what it delivers when it is read. -/
def openToRead (files : FileSystem) (path : HostText) :
    Except Files.Fault (List ReadEvent) :=
  match files.find path with
  | .ok (.file content _) => .ok [.data content]
  | .ok (.damaged []) => .ok [.failed .inputOutput]
  | .ok (.damaged lead) => .ok [.data lead, .failed .inputOutput]
  | .ok .sealed => .error .permissionDenied
  | .ok _ => .ok [.failed .isDirectory]
  | .error fault => .error fault

/-- The digest of the file that a path leads to, for an input.  The input is
not found unless there is a regular file that can be opened. -/
def hashFile (files : FileSystem) (input : Input) (path : HostText) :
    Except Error FileDigest :=
  if files.isFile path then
    match files.openToRead path with
    | .error _ => .error (.inputNotFound input path)
    | .ok events =>
        match FileDigest.hashEvents events with
        | .ok digest => .ok digest
        | .error fault => .error (.io input path fault)
  else .error (.inputNotFound input path)

end FileSystem
end ReportBinding
