import ReportBinding.Attest.Basic
import ReportBinding.Text.Table

/-!
# Inspecting inputs

An inspection tells for each input whether its value can be found, and the
report data if all values are.  It fails never; what is wrong stands in the
rows.
-/

namespace ReportBinding
namespace Attest

/-- What a row is about. -/
inductive Subject where
  | input (input : Input)
  | reportData
deriving DecidableEq, Repr

/-- The wording of a subject. -/
def Subject.label : Subject → String
  | .input which => which.label
  | .reportData => "report_data"

/-- How a subject stands. -/
inductive Status where
  /-- The value is known. -/
  | found
  /-- There is no file. -/
  | missing
  /-- The checkout has no revision. -/
  | uninitialized
  /-- Reading failed. -/
  | error
  /-- Anything else is wrong. -/
  | invalid
  /-- All values are bound. -/
  | bound
  /-- Not all values are known. -/
  | incomplete
deriving DecidableEq, Repr

/-- The wording of a status. -/
def Status.label : Status → String
  | .found => "FOUND"
  | .missing => "MISSING"
  | .uninitialized => "UNINITIALIZED"
  | .error => "ERROR"
  | .invalid => "INVALID"
  | .bound => "BOUND"
  | .incomplete => "INCOMPLETE"

/-- The status that an error gives an input. -/
def Status.ofError : Error → Status
  | .inputNotFound _ _ => .missing
  | .repositoryNotInitialized _ _ => .uninitialized
  | .io _ _ _ => .error
  | _ => .invalid

/-- A row of an inspection. -/
structure Row where
  subject : Subject
  status : Status
  value : String
deriving DecidableEq, Repr

/-- The row of an input. -/
def Row.ofInput {α : Type} (input : Input) (text : α → String)
    (result : Except Error α) : Row :=
  match result with
  | .ok value => ⟨.input input, .found, text value⟩
  | .error error => ⟨.input input, .ofError error, error.message⟩

/-- The row of the report data. -/
def Row.ofParts (parts : Provenance.Parts) : Row :=
  match parts.complete with
  | .ok provenance => ⟨.reportData, .bound, provenance.reportData.toHex⟩
  | .error missing =>
      ⟨.reportData, .incomplete, (Error.bindingIncomplete missing).message⟩

/-- The rows of findings. -/
def Row.ofFindings (findings : Findings) : List Row :=
  [.ofInput .toolchain FileDigest.toHex findings.toolchain,
    .ofInput .proof FileDigest.toHex findings.proof,
    .ofInput .revision RevisionId.text findings.revision,
    .ofParts findings.parts]

/-- Inspect the inputs one after the other. -/
def inspect (host : Program.Host) (config : Config) (files : FileSystem) :
    List Row × FileSystem :=
  let (findings, files) :=
    Findings.gather .binding config.inputs (config.resolver host) files
  (Row.ofFindings findings, files)

/-- The text that shows the rows of an inspection. -/
def showRows (rows : List Row) : String :=
  "\nProvenance\n\n" ++
    Text.table ["Input", "Status", "Value"]
      (rows.map fun row => [row.subject.label, row.status.label, row.value]) ++
      "\n\n"

/-- Inspect the inputs and print the rows. -/
def printInspection (platform : Platform) (config : Config) (world : World) :
    Ending Unit :=
  let (rows, files) := inspect platform.host config world.files
  ⟨.ok (), { world with files := files }, showRows rows, ""⟩

end Attest
end ReportBinding
