/-!
# Stages of an attestation run

A run passes through its stages in one fixed order, and can fail in any stage
but the last.
-/

namespace ReportBinding

/-- How far a run has come. -/
inductive Stage where
  /-- Nothing has been done. -/
  | unbuilt
  /-- The toolchain has been hashed. -/
  | toolchainHashed
  /-- The proof has been hashed too. -/
  | proofHashed
  /-- All three values are known. -/
  | revisionResolved
  /-- The values are bound to report data. -/
  | bound
  /-- A quote over the report data has been asked for. -/
  | quoteRequested
  /-- The quote has arrived. -/
  | done
  /-- The run has failed. -/
  | failed
deriving DecidableEq, Repr

namespace Stage

/-- All stages, in order. -/
def all : List Stage :=
  [.unbuilt, .toolchainHashed, .proofHashed, .revisionResolved, .bound,
    .quoteRequested, .done, .failed]

/-- The stage that follows when all goes well. -/
def next? : Stage → Option Stage
  | .unbuilt => some .toolchainHashed
  | .toolchainHashed => some .proofHashed
  | .proofHashed => some .revisionResolved
  | .revisionResolved => some .bound
  | .bound => some .quoteRequested
  | .quoteRequested => some .done
  | .done => none
  | .failed => none

/-- Whether a run has ended. -/
def isTerminal : Stage → Bool
  | .done => true
  | .failed => true
  | _ => false

/-- The name of a stage. -/
def name : Stage → String
  | .unbuilt => "Unbuilt"
  | .toolchainHashed => "ToolchainHashed"
  | .proofHashed => "ProofHashed"
  | .revisionResolved => "RevisionResolved"
  | .bound => "Bound"
  | .quoteRequested => "QuoteRequested"
  | .done => "Done"
  | .failed => "Failed"

/-- The stage with a name. -/
def ofName? (name : String) : Option Stage :=
  all.find? fun stage => stage.name == name

/-- A stage is found under its name. -/
@[simp] theorem ofName?_name (stage : Stage) :
    ofName? stage.name = some stage := by
  cases stage <;> decide

end Stage
end ReportBinding
