import ReportBinding.Files.Access

/-!
# Arranging files

Arrangements put files in place for a trial run.  An arrangement that fails
keeps what it has done so far.
-/

namespace ReportBinding
namespace Scenario

open Files

/-- Steps that change files and stop at the first fault. -/
abbrev Setup := ExceptT Fault (StateM FileSystem)

/-- Carry out steps. -/
def Setup.perform {α : Type} (setup : Setup α) (files : FileSystem) :
    Except Fault α × FileSystem :=
  StateT.run (ExceptT.run setup) files

/-- The step of an operation that changes all or nothing. -/
def change (operation : FileSystem → Except Fault FileSystem) : Setup Unit :=
  do
    let files ← get
    match operation files with
    | .ok files => set files
    | .error fault => throw fault

/-- Write a file. -/
def writeFile (path : HostText) (content : Bytes) : Setup Unit :=
  change fun files => files.write path content

/-- Write a file of text. -/
def writeText (path : HostText) (text : String) : Setup Unit :=
  writeFile path (Text.Utf8.encode text)

/-- Create a directory and the directories around it. -/
def createDirectories (path : HostText) : Setup Unit := do
  let files ← get
  let (result, files) := files.createDirectories path
  set files
  match result with
  | .ok () => pure ()
  | .error fault => throw fault

/-- A file that is put in place, or taken away. -/
inductive Arrangement where
  /-- A file with the given content, which may be marked as a program. -/
  | file (path : HostText) (content : Bytes) (executable : Bool)
  /-- A directory. -/
  | directory (path : HostText)
  /-- A symbolic link to a target. -/
  | link (path target : HostText)
  /-- Nothing, in place of what is there. -/
  | removal (path : HostText)
deriving DecidableEq, Repr

/-- Carry out an arrangement.  The directories around new entries are created
as needed. -/
def Arrangement.setup : Arrangement → Setup Unit
  | .file path content executable => do
      createDirectories (Path.outer path)
      writeFile path content
      if executable then change fun files => files.markExecutable path
  | .directory path => createDirectories path
  | .link path target => do
      createDirectories (Path.outer path)
      change fun files => files.createLink target path
  | .removal path => change fun files => files.removeAll path

end Scenario
end ReportBinding
