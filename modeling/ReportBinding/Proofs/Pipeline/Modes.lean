import ReportBinding.Proofs.Pipeline.Landing

/-!
# Both modes of hashing alike

A run that hashes its inputs one after the other cannot be told from one that
hashes them at the same time, on whatever schedule its tasks are carried out, as
long as resolvers only read.  Every operation commutes with a change of the mode
(`perform_inMode`), and so do sequences of operations (`afterTurns_inMode`).
What fails an operation is the first input in binding order that is not found.
-/

namespace ReportBinding

/-- An operation whose resolver only reads, with the schedule of its tasks left
open. -/
inductive Plan where
  | reset
  | resolve (paths : InputPaths)
      (lookUp : FileSystem → HostText → Except Error RevisionId)
  | bind
  | requestQuote (generator : Generator)
  | prepare (paths : InputPaths)
      (lookUp : FileSystem → HostText → Except Error RevisionId)
  | run (paths : InputPaths)
      (lookUp : FileSystem → HostText → Except Error RevisionId)
      (generator : Generator)

namespace Plan

/-- The operation that a plan comes to on a schedule. -/
def on (schedule : Schedule) : Plan → Operation
  | .reset => .reset
  | .resolve paths lookUp => .resolve schedule paths (.reading lookUp)
  | .bind => .bind
  | .requestQuote generator => .requestQuote generator
  | .prepare paths lookUp => .prepare schedule paths (.reading lookUp)
  | .run paths lookUp generator =>
      .run schedule paths (.reading lookUp) generator

/-- What a plan finds out about the inputs, if it looks for them in a run that
has come to a stage. -/
def findings? (files : FileSystem) (stage : Stage) : Plan → Option Findings
  | .resolve paths lookUp =>
      if stage = .unbuilt then some (.direct paths lookUp files) else none
  | .prepare paths lookUp => some (.direct paths lookUp files)
  | .run paths lookUp _ => some (.direct paths lookUp files)
  | _ => none

end Plan

/-- A plan, the files that it comes upon, and the schedule of its tasks in runs
of each mode. -/
structure Round where
  files : FileSystem
  plan : Plan
  schedule : HashingMode → Schedule

/-- The turn that a round is in runs of a mode. -/
def Round.turn (round : Round) (mode : HashingMode) : Turn :=
  ⟨round.files, round.plan.on (round.schedule mode)⟩

/-! ## The first failure -/

namespace Findings

/-- Why an input is not found, if it is not. -/
def error? (findings : Findings) : Input → Option Error
  | .toolchain =>
      match findings.toolchain with
      | .error error => some error
      | .ok _ => none
  | .proof =>
      match findings.proof with
      | .error error => some error
      | .ok _ => none
  | .revision =>
      match findings.revision with
      | .error error => some error
      | .ok _ => none

/-- Why the first input in binding order that is not found is not found. -/
def firstError? (findings : Findings) : Option Error :=
  Input.all.findSome? findings.error?

theorem outcome_of_firstError? {findings : Findings} {error : Error}
    (isFirst : findings.firstError? = some error) :
    findings.outcome = .error error := by
  obtain ⟨toolchain, proof, revision⟩ := findings
  cases toolchain with
  | error first =>
      cases isFirst
      rfl
  | ok toolchain =>
      cases proof with
      | error first =>
          cases isFirst
          rfl
      | ok proof =>
          cases revision with
          | error first =>
              cases isFirst
              rfl
          | ok revision => cases isFirst

end Findings

/-! ## Changing the mode -/

/-- What can be seen of an operation: its result, the requests that it made, the
files that it left, and the run after it, all but the mode. -/
structure Observation where
  result : Except Error Answer
  requests : List ReportData
  files : FileSystem
  stage : Stage
  history : List Stage
  provenance : Option Provenance
  reportData : Option ReportData

/-- What can be seen of an operation once it has been performed. -/
def Step.observation (step : Step Answer) : Observation where
  result := step.result
  requests := step.world.requests
  files := step.world.files
  stage := step.pipeline.stage
  history := step.pipeline.history
  provenance := step.pipeline.provenance
  reportData := step.pipeline.reportData

/-- The same run in another mode. -/
def Pipeline.inMode (mode : HashingMode) (pipeline : Pipeline) : Pipeline :=
  { pipeline with mode := mode }

/-- What an operation leaves behind, with the run in another mode. -/
def Step.inMode {α : Type} (mode : HashingMode) (step : Step α) : Step α :=
  { step with pipeline := step.pipeline.inMode mode }

/-- The mode of a run is not seen. -/
@[simp] theorem Step.observation_inMode (mode : HashingMode)
    (step : Step Answer) :
    (step.inMode mode).observation = step.observation := rfl

namespace Pipeline

variable {pipeline : Pipeline}

@[simp] theorem stage_inMode (mode : HashingMode) (pipeline : Pipeline) :
    (pipeline.inMode mode).stage = pipeline.stage := rfl

theorem answered_inMode (mode other : HashingMode) (provenance : Provenance)
    (answer : Except Error Quote) :
    (answered other provenance answer).inMode mode =
      answered mode provenance answer := by
  cases answer <;> rfl

/-- Resolving the inputs is the same in both modes. -/
theorem Landed.resolveProvenance_inMode (landed : Landed pipeline)
    (mode : HashingMode) (schedule other : Schedule) (paths : InputPaths)
    (lookUp : FileSystem → HostText → Except Error RevisionId)
    (world : World) :
    (pipeline.inMode mode).resolveProvenance other paths (.reading lookUp)
        world =
      (pipeline.resolveProvenance schedule paths (.reading lookUp)
        world).inMode mode := by
  by_cases isUnbuilt : pipeline.stage = .unbuilt
  · rw [landed.eq_new isUnbuilt]
    have searched := Findings.search_reading pipeline.mode schedule paths
      lookUp world.files
    have searchedOther := Findings.search_reading mode other paths lookUp
      world.files
    have isNew : (Pipeline.new pipeline.mode).inMode mode =
        Pipeline.new mode := rfl
    rw [isNew]
    cases outcome : (Findings.direct paths lookUp world.files).outcome with
    | error error =>
        rw [resolveProvenance_of_error world.requests searched outcome,
          resolveProvenance_of_error world.requests searchedOther outcome]
        rfl
    | ok provenance =>
        rw [resolveProvenance_of_ok world.requests searched outcome,
          resolveProvenance_of_ok world.requests searchedOther outcome]
        rfl
  · rw [resolveProvenance_of_ne isUnbuilt,
      resolveProvenance_of_ne (by rwa [stage_inMode])]
    rfl

theorem Landed.bind_inMode (landed : Landed pipeline) (mode : HashingMode)
    (world : World) :
    (pipeline.inMode mode).bind world = (pipeline.bind world).inMode mode := by
  by_cases isResolved : pipeline.stage = .revisionResolved
  · obtain ⟨provenance, equal⟩ := landed.eq_resolved isResolved
    rw [equal]
    rfl
  · rw [bind_of_ne isResolved, bind_of_ne (by rwa [stage_inMode])]
    rfl

theorem Landed.requestQuote_inMode (landed : Landed pipeline)
    (mode : HashingMode) (generator : Generator) (world : World) :
    (pipeline.inMode mode).requestQuote generator world =
      (pipeline.requestQuote generator world).inMode mode := by
  by_cases isBound : pipeline.stage = .bound
  · obtain ⟨provenance, equal⟩ := landed.eq_boundTo isBound
    have isBoundTo : (Pipeline.boundTo pipeline.mode provenance).inMode mode =
        Pipeline.boundTo mode provenance := rfl
    rw [equal, isBoundTo, requestQuote_boundTo _ world.requests rfl,
      requestQuote_boundTo _ world.requests rfl, Step.inMode,
      answered_inMode]
  · rw [requestQuote_of_ne isBound,
      requestQuote_of_ne (by rwa [stage_inMode])]
    rfl

/-- Preparing is the same in both modes, wherever it begins. -/
theorem prepare_inMode (pipeline : Pipeline) (mode : HashingMode)
    (schedule other : Schedule) (paths : InputPaths)
    (lookUp : FileSystem → HostText → Except Error RevisionId)
    (world : World) :
    (pipeline.inMode mode).prepare other paths (.reading lookUp) world =
      (pipeline.prepare schedule paths (.reading lookUp) world).inMode
        mode := by
  have searched := Findings.search_reading pipeline.mode schedule paths lookUp
    world.files
  have searchedOther := Findings.search_reading mode other paths lookUp
    world.files
  cases outcome : (Findings.direct paths lookUp world.files).outcome with
  | error error =>
      rw [prepare_of_error pipeline world.requests searched outcome,
        prepare_of_error (pipeline.inMode mode) world.requests searchedOther
          outcome]
      rfl
  | ok provenance =>
      rw [prepare_of_ok pipeline world.requests searched outcome,
        prepare_of_ok (pipeline.inMode mode) world.requests searchedOther
          outcome]
      rfl

theorem run_inMode (pipeline : Pipeline) (mode : HashingMode)
    (schedule other : Schedule) (paths : InputPaths)
    (lookUp : FileSystem → HostText → Except Error RevisionId)
    (generator : Generator) (world : World) :
    (pipeline.inMode mode).run other paths (.reading lookUp) generator
        world =
      (pipeline.run schedule paths (.reading lookUp) generator world).inMode
        mode := by
  have searched := Findings.search_reading pipeline.mode schedule paths lookUp
    world.files
  have searchedOther := Findings.search_reading mode other paths lookUp
    world.files
  cases outcome : (Findings.direct paths lookUp world.files).outcome with
  | error error =>
      rw [run_of_error pipeline world.requests searched outcome,
        run_of_error (pipeline.inMode mode) world.requests searchedOther
          outcome]
      rfl
  | ok provenance =>
      rw [run_of_ok pipeline world.requests searched outcome rfl,
        run_of_ok (pipeline.inMode mode) world.requests searchedOther outcome
          rfl, Step.inMode, answered_inMode]
      rfl

/-- Every operation is the same in both modes, on whatever schedules. -/
theorem Landed.perform_inMode (landed : Landed pipeline) (mode : HashingMode)
    (schedule other : Schedule) (plan : Plan) (world : World) :
    (plan.on other).perform (pipeline.inMode mode) world =
      ((plan.on schedule).perform pipeline world).inMode mode := by
  cases plan with
  | reset => rfl
  | resolve paths lookUp =>
      have same := landed.resolveProvenance_inMode mode schedule other paths
        lookUp world
      exact congrArg (Step.map Answer.provenance) same
  | bind =>
      have same := landed.bind_inMode mode world
      exact congrArg (Step.map Answer.reportData) same
  | requestQuote generator =>
      have same := landed.requestQuote_inMode mode generator world
      exact congrArg (Step.map Answer.quote) same
  | prepare paths lookUp =>
      have same := pipeline.prepare_inMode mode schedule other paths lookUp
        world
      exact congrArg (Step.map Answer.bound) same
  | run paths lookUp generator =>
      have same := pipeline.run_inMode mode schedule other paths lookUp
        generator world
      exact congrArg (Step.map Answer.attestation) same

/-- A round is the same step in both modes. -/
theorem Landed.step_inMode (landed : Landed pipeline)
    (mode other : HashingMode) (round : Round) :
    (pipeline.inMode other).step (round.turn other) =
      (pipeline.step (round.turn mode)).inMode other :=
  landed.perform_inMode other (round.schedule mode) (round.schedule other)
    round.plan ⟨round.files, []⟩

/-- Sequences of rounds lead to the same run in both modes. -/
theorem Landed.afterTurns_inMode (landed : Landed pipeline)
    (mode other : HashingMode) (rounds : List Round) :
    (pipeline.inMode other).afterTurns (rounds.map (·.turn other)) =
      (pipeline.afterTurns (rounds.map (·.turn mode))).inMode other := by
  induction rounds generalizing pipeline with
  | nil => rfl
  | cons round rounds inductionHypothesis =>
      have landedNext : Landed (pipeline.step (round.turn mode)).pipeline :=
        landed.perform _ _
      rw [List.map_cons, List.map_cons, Pipeline.afterTurns,
        Pipeline.afterTurns, landed.step_inMode mode other round]
      exact inductionHypothesis landedNext

/-! ## Runs of both modes -/

/-- A new run of a mode after a sequence of rounds. -/
def afterRounds (mode : HashingMode) (rounds : List Round) : Pipeline :=
  (new mode).afterTurns (rounds.map (·.turn mode))

theorem landed_afterRounds (mode : HashingMode) (rounds : List Round) :
    Landed (afterRounds mode rounds) :=
  (Landed.new mode).afterTurns _

/-- An operation fails with the first failure of what it finds out. -/
theorem Landed.result_of_findings? (landed : Landed pipeline)
    {schedule : Schedule} {plan : Plan} {files : FileSystem}
    {findings : Findings} {error : Error}
    (looks : plan.findings? files pipeline.stage = some findings)
    (failed : findings.outcome = .error error) :
    (pipeline.step ⟨files, plan.on schedule⟩).result = .error error := by
  cases plan with
  | reset => cases looks
  | bind => cases looks
  | requestQuote generator => cases looks
  | resolve paths lookUp =>
      rw [Plan.findings?] at looks
      split at looks
      · next isUnbuilt =>
        cases looks
        rw [landed.eq_new isUnbuilt]
        have searched := Findings.search_reading pipeline.mode schedule paths
          lookUp files
        have resolved := resolveProvenance_of_error [] searched failed
        exact congrArg (fun step => (step.map Answer.provenance).result)
          resolved
      · cases looks
  | prepare paths lookUp =>
      cases looks
      have searched := Findings.search_reading pipeline.mode schedule paths
        lookUp files
      have prepared := pipeline.prepare_of_error [] searched failed
      exact congrArg (fun step => (step.map Answer.bound).result) prepared
  | run paths lookUp generator =>
      cases looks
      have searched := Findings.search_reading pipeline.mode schedule paths
        lookUp files
      have ended : pipeline.run schedule paths (.reading lookUp) generator
          ⟨files, []⟩ = _ :=
        pipeline.run_of_error [] searched failed
      exact congrArg (fun step => (step.map Answer.attestation).result) ended

/-- After the same rounds a further round is seen alike in a run that hashes its
inputs one after the other and in one that hashes them at the same time, on
whatever schedules: same result, requests, files and state.  If it looks for
the inputs and some are not found, then it fails in both modes because of the
first of them in binding order. -/
theorem modes_seen_alike (rounds : List Round) (round : Round) :
    ((afterRounds .sequential rounds).step
        (round.turn .sequential)).observation =
      ((afterRounds .concurrent rounds).step
        (round.turn .concurrent)).observation ∧
    ∀ mode findings error,
      round.plan.findings? round.files (afterRounds mode rounds).stage =
          some findings →
        findings.firstError? = some error →
          ((afterRounds mode rounds).step (round.turn mode)).result =
            .error error := by
  constructor
  · have sameRun : afterRounds .concurrent rounds =
        (afterRounds .sequential rounds).inMode .concurrent :=
      (Landed.new .sequential).afterTurns_inMode .sequential .concurrent rounds
    have sameStep := (landed_afterRounds .sequential rounds).step_inMode
      .sequential .concurrent round
    rw [sameRun, sameStep, Step.observation_inMode]
  · intro mode findings error looks isFirst
    exact (landed_afterRounds mode rounds).result_of_findings? looks
      (Findings.outcome_of_firstError? isFirst)

/-- A preparation that finds a toolchain, but neither the proof nor the
revision, and in the concurrent mode looks for them from the last to the
first. -/
def sampleRound : Round where
  files := FileSystem.empty.put ["tool"] (.file [1] true)
  plan := .prepare ⟨"tool", "proof", "sdk"⟩ fun _ checkout =>
    .error (.repositoryNotInitialized checkout .noMetadata)
  schedule
    | .sequential => .binding
    | .concurrent => ⟨Input.all.reverse, List.reverse_perm _⟩

/-- Preparing twice in vain fails because of the proof in both modes, though the
revision is not found either. -/
theorem modes_seen_alike_sample :
    ∃ findings,
      sampleRound.plan.findings? sampleRound.files
          (afterRounds .concurrent [sampleRound]).stage = some findings ∧
        findings.firstError? = some (.inputNotFound .proof "proof") ∧
        findings.error? .revision =
          some (.repositoryNotInitialized "sdk" .noMetadata) ∧
        ((afterRounds .sequential [sampleRound]).step
            (sampleRound.turn .sequential)).result =
          .error (.inputNotFound .proof "proof") ∧
        ((afterRounds .concurrent [sampleRound]).step
            (sampleRound.turn .concurrent)).result =
          .error (.inputNotFound .proof "proof") := by
  obtain ⟨-, fails⟩ := modes_seen_alike [sampleRound] sampleRound
  have isFirst : (Findings.direct ⟨"tool", "proof", "sdk"⟩
      (fun _ checkout =>
        .error (.repositoryNotInitialized checkout .noMetadata))
      sampleRound.files).firstError? =
        some (.inputNotFound .proof "proof") := rfl
  exact ⟨_, rfl, isFirst, rfl, fails .sequential _ _ rfl isFirst,
    fails .concurrent _ _ rfl isFirst⟩

end Pipeline
end ReportBinding
