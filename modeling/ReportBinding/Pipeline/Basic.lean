import ReportBinding.Pipeline.Inputs
import ReportBinding.Quote.Generator.Basic

/-!
# Attestation runs

A pipeline takes one run through its stages.  Nothing is bound before all three
values are known, and no quote is asked for unless they are bound.  Operations
out of order are refused and change nothing; a failure ends the run.
-/

namespace ReportBinding

/-- A run, as far as it has come. -/
structure Pipeline where
  mode : HashingMode
  stage : Stage
  /-- All stages since the run began, in order. -/
  history : List Stage
  provenance : Option Provenance
  reportData : Option ReportData
deriving DecidableEq

/-- The provenance of a run and the report data bound to it. -/
structure BoundProvenance where
  provenance : Provenance
  reportData : ReportData
deriving DecidableEq

/-- What a completed run ends with. -/
structure Attestation where
  provenance : Provenance
  reportData : ReportData
  quote : Quote
deriving DecidableEq

/-- What runs work on: the files, and the report data that generators have been
asked to attest so far. -/
structure World where
  files : FileSystem
  requests : List ReportData

/-- What an operation leaves behind. -/
structure Step (α : Type) where
  result : Except Error α
  pipeline : Pipeline
  world : World

namespace Pipeline

/-- A run that has not begun. -/
def new (mode : HashingMode) : Pipeline :=
  ⟨mode, .unbuilt, [.unbuilt], none, none⟩

/-- A run that has not begun, in the mode that runs use unless told
otherwise. -/
def standard : Pipeline := new HashingMode.standard

/-- Begin again. -/
def reset (pipeline : Pipeline) : Pipeline :=
  new pipeline.mode

/-- Go on to the next stage, which has to be the one named. -/
def advance (pipeline : Pipeline) (target : Stage) : Except Error Pipeline :=
  if pipeline.stage.next? = some target then
    .ok { pipeline with
      stage := target, history := pipeline.history ++ [target] }
  else .error (.invalidTransition pipeline.stage target)

/-- End the run as failed. -/
def fail (pipeline : Pipeline) : Pipeline :=
  { pipeline with
    stage := .failed, history := pipeline.history ++ [.failed] }

/-- Go on to a stage with a result, or end the run if there is none. -/
def record {α : Type} (pipeline : Pipeline) (target : Stage)
    (result : Except Error α) : Except Error α × Pipeline :=
  match result with
  | .error error => (.error error, pipeline.fail)
  | .ok value =>
      match pipeline.advance target with
      | .ok pipeline => (.ok value, pipeline)
      | .error error => (.error error, pipeline)

/-- Resolve the inputs one after the other. -/
def resolveSequentially (pipeline : Pipeline) (paths : InputPaths)
    (resolver : Resolver) (files : FileSystem) :
    Except Error Provenance × Pipeline × FileSystem :=
  match pipeline.record .toolchainHashed
      (files.hashFile .toolchain paths.toolchain) with
  | (.error error, pipeline) => (.error error, pipeline, files)
  | (.ok toolchain, pipeline) =>
      match pipeline.record .proofHashed
          (files.hashFile .proof paths.proof) with
      | (.error error, pipeline) => (.error error, pipeline, files)
      | (.ok proof, pipeline) =>
          let (resolved, files) := resolver files paths.sdk
          match pipeline.record .revisionResolved resolved with
          | (.error error, pipeline) => (.error error, pipeline, files)
          | (.ok revision, pipeline) =>
              (.ok ⟨toolchain, proof, revision⟩, pipeline, files)

/-- Put findings down in binding order, up to the first failure. -/
def recordFindings (pipeline : Pipeline) (findings : Findings) :
    Except Error Provenance × Pipeline :=
  match pipeline.record .toolchainHashed findings.toolchain with
  | (.error error, pipeline) => (.error error, pipeline)
  | (.ok toolchain, pipeline) =>
      match pipeline.record .proofHashed findings.proof with
      | (.error error, pipeline) => (.error error, pipeline)
      | (.ok proof, pipeline) =>
          match pipeline.record .revisionResolved findings.revision with
          | (.error error, pipeline) => (.error error, pipeline)
          | (.ok revision, pipeline) =>
              (.ok ⟨toolchain, proof, revision⟩, pipeline)

/-- Resolve the inputs at the same time. -/
def resolveConcurrently (pipeline : Pipeline) (schedule : Schedule)
    (paths : InputPaths) (resolver : Resolver) (files : FileSystem) :
    Except Error Provenance × Pipeline × FileSystem :=
  let (findings, files) := Findings.gather schedule paths resolver files
  let (result, pipeline) := pipeline.recordFindings findings
  (result, pipeline, files)

/-- Find out the three values. -/
def resolveProvenance (pipeline : Pipeline) (schedule : Schedule)
    (paths : InputPaths) (resolver : Resolver) (world : World) :
    Step Provenance :=
  if pipeline.stage ≠ .unbuilt then
    ⟨.error (.invalidTransition pipeline.stage .toolchainHashed), pipeline,
      world⟩
  else
    let (result, pipeline, files) :=
      match pipeline.mode with
      | .sequential =>
          pipeline.resolveSequentially paths resolver world.files
      | .concurrent =>
          pipeline.resolveConcurrently schedule paths resolver world.files
    let world := { world with files := files }
    match result with
    | .ok provenance =>
        ⟨.ok provenance, { pipeline with provenance := some provenance },
          world⟩
    | .error error => ⟨.error error, pipeline, world⟩

/-- Bind the values that have been found out. -/
def bind (pipeline : Pipeline) (world : World) : Step ReportData :=
  match pipeline.stage, pipeline.provenance with
  | .revisionResolved, some provenance =>
      match pipeline.advance .bound with
      | .ok pipeline =>
          let reportData := provenance.reportData
          ⟨.ok reportData, { pipeline with reportData := some reportData },
            world⟩
      | .error error => ⟨.error error, pipeline, world⟩
  | stage, _ => ⟨.error (.invalidTransition stage .bound), pipeline, world⟩

/-- Ask for a quote over the report data that has been bound. -/
def requestQuote (pipeline : Pipeline) (generator : Generator)
    (world : World) : Step Quote :=
  match pipeline.stage, pipeline.reportData with
  | .bound, some reportData =>
      match pipeline.advance .quoteRequested with
      | .ok pipeline =>
          let (answer, files) := generator.generate world.files reportData
          let (result, pipeline) := pipeline.record .done answer
          ⟨result, pipeline, ⟨files, world.requests ++ [reportData]⟩⟩
      | .error error => ⟨.error error, pipeline, world⟩
  | stage, _ =>
      ⟨.error (.invalidTransition stage .quoteRequested), pipeline, world⟩

/-- Begin again and go as far as binding. -/
def prepare (pipeline : Pipeline) (schedule : Schedule) (paths : InputPaths)
    (resolver : Resolver) (world : World) : Step BoundProvenance :=
  match pipeline.reset.resolveProvenance schedule paths resolver world with
  | ⟨.error error, pipeline, world⟩ => ⟨.error error, pipeline, world⟩
  | ⟨.ok provenance, pipeline, world⟩ =>
      match pipeline.bind world with
      | ⟨.error error, pipeline, world⟩ => ⟨.error error, pipeline, world⟩
      | ⟨.ok reportData, pipeline, world⟩ =>
          ⟨.ok ⟨provenance, reportData⟩, pipeline, world⟩

/-- Begin again and go to the end. -/
def run (pipeline : Pipeline) (schedule : Schedule) (paths : InputPaths)
    (resolver : Resolver) (generator : Generator) (world : World) :
    Step Attestation :=
  match pipeline.prepare schedule paths resolver world with
  | ⟨.error error, pipeline, world⟩ => ⟨.error error, pipeline, world⟩
  | ⟨.ok bound, pipeline, world⟩ =>
      match pipeline.requestQuote generator world with
      | ⟨.error error, pipeline, world⟩ => ⟨.error error, pipeline, world⟩
      | ⟨.ok quote, pipeline, world⟩ =>
          ⟨.ok ⟨bound.provenance, bound.reportData, quote⟩, pipeline, world⟩

end Pipeline
end ReportBinding
