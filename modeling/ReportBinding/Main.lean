import ReportBinding.CommandLine.Program
import ReportBinding.Program.Host

/-!
# Running the programs

The outermost layer takes a picture of the files around the working directory
and of those that the command line names, runs the program on it, and carries
out the changes that the program makes.  Which program is run is told by the
name of the executable.
-/

namespace ReportBinding
namespace Main

open Files

/-- The greatest depth of directories that a picture of files shows. -/
def maximumDepth : Nat := 24

/-- The bytes at the front of a script that names its interpreter. -/
def scriptMark : Bytes := [0x23, 0x21]

/-- The path of a location, as the text that operations of this host take.
Names come from this host as texts. -/
def pathText (location : Location) : String :=
  (Path.ofNames true location).display

/-- Put what stands at a location into a picture of files.  Scripts that name
their interpreter count as programs. -/
def load : Nat → FileSystem → Location → IO FileSystem
  | 0, files, _ => pure files
  | depth + 1, files, location => do
      let path := pathText location
      let names? : Option (List String) ←
        try
          let directory ← IO.FS.realPath path
          let entries ← directory.readDir
          pure (some (entries.toList.map fun entry => entry.fileName))
        catch _ => pure none
      match names? with
      | some names =>
          let mut files := files.put location .directory
          for name in names do
            files ← load depth files (location ++ [.ofText name])
          pure files
      | none =>
          try
            let content := (← IO.FS.readBinFile path).data.toList
            let executable := content.take 2 == scriptMark
            pure (files.put location (.file content executable))
          catch _ => pure files

/-- Put a location and the directories around it into a picture of files. -/
def loadAround (files : FileSystem) (location : Location) :
    IO FileSystem := do
  let outer := (List.range location.length).map fun count =>
    location.take count
  let files := outer.foldl (fun files directory =>
    if directory.isEmpty then files else files.put directory .directory) files
  load maximumDepth files location

/-- The absolute paths in a list of texts, as locations.  What the standard
host brings along is left out. -/
def locationsOf (texts : List HostText) : List Location :=
  ((texts.filter Path.isAbsolute).map Path.names).filter fun location =>
    (Program.standardFiles.entry? location).isNone

/-- The variables that the programs look at. -/
def variableNames : List String :=
  (CommandLine.attestDialect.rules ++ CommandLine.verifyDialect.rules).filterMap
    fun rule => rule.variableName?

/-- The environment of this program, as far as it is looked at. -/
def readEnvironment : IO CommandLine.Environment :=
  variableNames.filterMapM fun name => do
    pure ((← IO.getEnv name).map fun value => (name, .ofText value))

/-- Carry out the change at one location. -/
def carryOut (location : Location) : Option Entry → IO Unit
  | some (.file content _) =>
      IO.FS.writeBinFile (pathText location) ⟨content.toArray⟩
  | some .directory => IO.FS.createDirAll (pathText location)
  | some _ => pure ()
  | none => IO.FS.removeFile (pathText location)

/-- Carry out the changes from one picture of files to another. -/
def carryOutChanges (before after : FileSystem) : IO Unit := do
  for (location, entry) in after.entries.toList do
    if before.entries[location]? ≠ some entry then
      carryOut location (some entry)
  for (location, _) in before.entries.toList do
    if after.entries[location]?.isNone then carryOut location none

/-- The program that an executable name stands for. -/
def toolOf (executable : String) : CommandLine.Tool :=
  if Path.lastName? executable = some CommandLine.Tool.verify.name then
    .verify
  else .attest

/-- Run a program on the files of this host. -/
def runTool (tool : CommandLine.Tool) (arguments : List HostText) :
    IO CommandLine.Exit := do
  let environment ← readEnvironment
  let working := Path.names (toString (← IO.currentDir))
  let start := { Program.standardFiles with workingDirectory := working }
  let named := locationsOf (arguments ++ environment.map Prod.snd)
  let before ← (working :: named).foldlM loadAround start
  let exit := tool.run ⟨Program.standardHost, .binding⟩ environment arguments
    before
  carryOutChanges before exit.files
  pure exit

end Main
end ReportBinding

open ReportBinding in
/-- Run the program that the name of the executable stands for. -/
def main (arguments : List String) : IO UInt32 := do
  let tool := Main.toolOf (toString (← IO.appPath))
  let exit ← Main.runTool tool (arguments.map HostText.ofText)
  IO.print exit.output
  IO.eprint (exit.remarks ++ exit.errorText.getD "")
  pure (UInt32.ofNat exit.status)
