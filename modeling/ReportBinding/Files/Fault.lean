/-!
# Faults of file operations

What the host answers when a file cannot be opened, read, written or run, and
how it words the answer.
-/

namespace ReportBinding
namespace Files

/-- Why the host refused an operation on a file or a program. -/
inductive Fault where
  /-- Nothing has the name. -/
  | notFound
  /-- The medium failed. -/
  | inputOutput
  /-- A file marked executable is in no format that can be run. -/
  | executableFormat
  /-- The file may not be used in this way. -/
  | permissionDenied
  /-- The name is taken. -/
  | alreadyExists
  /-- A name that others are looked up in is no directory. -/
  | notDirectory
  /-- A directory stands where a file is needed. -/
  | isDirectory
  /-- A directory to be removed still has entries. -/
  | directoryNotEmpty
  /-- A name, or a whole path, exceeds the limit of the host. -/
  | nameTooLong
  /-- More symbolic links were met than one lookup may follow. -/
  | tooManyLinks
  /-- A file that should hold text is not well-formed UTF-8. -/
  | invalidText
  /-- A path contains a NUL character. -/
  | nulInPath
  /-- A program name or argument contains a NUL character. -/
  | nulInArgument
  /-- A source of bytes failed with a text of its own. -/
  | reported (text : String)
deriving DecidableEq, Repr

/-- The number under which the host knows a fault, for faults that it numbers. -/
def Fault.number? : Fault → Option Nat
  | .notFound => some 2
  | .inputOutput => some 5
  | .executableFormat => some 8
  | .permissionDenied => some 13
  | .alreadyExists => some 17
  | .notDirectory => some 20
  | .isDirectory => some 21
  | .directoryNotEmpty => some 39
  | .nameTooLong => some 36
  | .tooManyLinks => some 40
  | _ => none

/-- The bare wording of a fault. -/
def Fault.wording : Fault → String
  | .notFound => "No such file or directory"
  | .inputOutput => "Input/output error"
  | .executableFormat => "Exec format error"
  | .permissionDenied => "Permission denied"
  | .alreadyExists => "File exists"
  | .notDirectory => "Not a directory"
  | .isDirectory => "Is a directory"
  | .directoryNotEmpty => "Directory not empty"
  | .nameTooLong => "File name too long"
  | .tooManyLinks => "Too many levels of symbolic links"
  | .invalidText => "stream did not contain valid UTF-8"
  | .nulInPath => "file name contained an unexpected NUL byte"
  | .nulInArgument => "nul byte found in provided data"
  | .reported text => text

/-- The wording of a fault, with its number where it has one. -/
def Fault.message (fault : Fault) : String :=
  match fault.number? with
  | some number => fault.wording ++ " (os error " ++ toString number ++ ")"
  | none => fault.wording

end Files
end ReportBinding
