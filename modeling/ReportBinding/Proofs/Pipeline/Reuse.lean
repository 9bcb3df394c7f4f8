import ReportBinding.Proofs.Pipeline.Landing

/-!
# Runs that are begun again

Preparing and whole runs depend on the mode of a run and on nothing that was
done with it before: `Pipeline.prepare_reading` and `Pipeline.run_reading` say
what they come to with a resolver that only reads.  The single operations that a
whole run consists of come to the same, one after the other and up to the first
that fails: `Pipeline.attempt_reading`.
-/

namespace ReportBinding

/-- The operations that a whole run consists of. -/
def Operation.ofRun (schedule : Schedule) (paths : InputPaths)
    (resolver : Resolver) (generator : Generator) : List Operation :=
  [.reset, .resolve schedule paths resolver, .bind, .requestQuote generator]

/-- The answers of the operations that a whole run consists of. -/
def Attestation.answers (attestation : Attestation) : List Answer :=
  [.nothing, .provenance attestation.provenance,
    .reportData attestation.reportData, .quote attestation.quote]

/-- What an operation leaves behind if requests were made before it. -/
def Step.behind {α : Type} (requests : List ReportData) (step : Step α) :
    Step α :=
  { step with
    world := { step.world with requests := requests ++ step.world.requests } }

namespace Pipeline

/-- Try operations one after the other, each on what the one before has left, up
to the first that fails. -/
def attempt (pipeline : Pipeline) (world : World) :
    List Operation → Step (List Answer)
  | [] => ⟨.ok [], pipeline, world⟩
  | operation :: operations =>
      match operation.perform pipeline world with
      | ⟨.error error, pipeline, world⟩ => ⟨.error error, pipeline, world⟩
      | ⟨.ok answer, pipeline, world⟩ =>
          (pipeline.attempt world operations).map (answer :: ·)

theorem attempt_cons_of_error {operation : Operation}
    {pipeline left : Pipeline} {world changed : World} {error : Error}
    (failed : operation.perform pipeline world =
      ⟨.error error, left, changed⟩) (operations : List Operation) :
    pipeline.attempt world (operation :: operations) =
      ⟨.error error, left, changed⟩ := by
  simp only [attempt, failed]

theorem attempt_cons_of_ok {operation : Operation}
    {pipeline left : Pipeline} {world changed : World} {answer : Answer}
    (succeeded : operation.perform pipeline world =
      ⟨.ok answer, left, changed⟩) (operations : List Operation) :
    pipeline.attempt world (operation :: operations) =
      (left.attempt changed operations).map (answer :: ·) := by
  simp only [attempt, succeeded]

/-! ## What calls come to that begin the run again -/

/-- What preparing comes to, from what is found out. -/
def prepared (mode : HashingMode) (findings : Findings) (world : World) :
    Step BoundProvenance :=
  match findings.outcome with
  | .error error => ⟨.error error, unresolved mode findings.found, world⟩
  | .ok provenance =>
      ⟨.ok ⟨provenance, provenance.reportData⟩, boundTo mode provenance,
        world⟩

/-- What a whole run comes to, from what is found out and the answer of the
generator to it. -/
def ran (mode : HashingMode) (findings : Findings) (generator : Generator)
    (world : World) : Step Attestation :=
  match findings.outcome with
  | .error error => ⟨.error error, unresolved mode findings.found, world⟩
  | .ok provenance =>
      let (answer, files) :=
        generator.generate world.files provenance.reportData
      ⟨answer.map fun quote => ⟨provenance, provenance.reportData, quote⟩,
        answered mode provenance answer,
        ⟨files, world.requests ++ [provenance.reportData]⟩⟩

section

variable (schedule : Schedule) (paths : InputPaths)
  (lookUp : FileSystem → HostText → Except Error RevisionId)
  (generator : Generator) (world : World)

/-- Preparing depends on the mode of the run, the inputs and the files. -/
theorem prepare_reading (pipeline : Pipeline) :
    pipeline.prepare schedule paths (.reading lookUp) world =
      prepared pipeline.mode (.direct paths lookUp world.files) world := by
  have searched := Findings.search_reading pipeline.mode schedule paths
    lookUp world.files
  unfold prepared
  cases outcome : (Findings.direct paths lookUp world.files).outcome with
  | error error => exact pipeline.prepare_of_error _ searched outcome
  | ok provenance => exact pipeline.prepare_of_ok _ searched outcome

/-- A whole run depends on the mode of the run, the inputs, the files and the
generator. -/
theorem run_reading (pipeline : Pipeline) :
    pipeline.run schedule paths (.reading lookUp) generator world =
      ran pipeline.mode (.direct paths lookUp world.files) generator
        world := by
  have searched := Findings.search_reading pipeline.mode schedule paths
    lookUp world.files
  unfold ran
  cases outcome : (Findings.direct paths lookUp world.files).outcome with
  | error error => exact pipeline.run_of_error _ searched outcome
  | ok provenance => exact pipeline.run_of_ok _ searched outcome rfl

/-- The operations of a whole run, one after the other, come to what the whole
run comes to. -/
theorem attempt_reading (pipeline : Pipeline) :
    pipeline.attempt world
        (Operation.ofRun schedule paths (.reading lookUp) generator) =
      (ran pipeline.mode (.direct paths lookUp world.files) generator
        world).map Attestation.answers := by
  have searched := Findings.search_reading pipeline.mode schedule paths
    lookUp world.files
  have wasReset : Operation.reset.perform pipeline world =
      ⟨.ok .nothing, new pipeline.mode, world⟩ := rfl
  rw [Operation.ofRun, attempt_cons_of_ok wasReset]
  unfold ran
  cases outcome : (Findings.direct paths lookUp world.files).outcome with
  | error error =>
      have failed : (Operation.resolve schedule paths
          (.reading lookUp)).perform (new pipeline.mode) world =
            ⟨.error error, unresolved pipeline.mode
              (Findings.direct paths lookUp world.files).found, world⟩ :=
        congrArg (Step.map Answer.provenance)
          (resolveProvenance_of_error world.requests searched outcome)
      rw [attempt_cons_of_error failed]
      rfl
  | ok provenance =>
      have wasResolved : (Operation.resolve schedule paths
          (.reading lookUp)).perform (new pipeline.mode) world =
            ⟨.ok (.provenance provenance),
              resolved pipeline.mode provenance, world⟩ :=
        congrArg (Step.map Answer.provenance)
          (resolveProvenance_of_ok world.requests searched outcome)
      have wasBound : Operation.bind.perform
          (resolved pipeline.mode provenance) world =
            ⟨.ok (.reportData provenance.reportData),
              boundTo pipeline.mode provenance, world⟩ := rfl
      have wasAsked : (Operation.requestQuote generator).perform
          (boundTo pipeline.mode provenance) world = _ :=
        congrArg (Step.map Answer.quote)
          (requestQuote_boundTo pipeline.mode world.requests rfl)
      rw [attempt_cons_of_ok wasResolved, attempt_cons_of_ok wasBound]
      cases answer : (generator.generate world.files
          provenance.reportData).1 with
      | error error =>
          rw [answer] at wasAsked
          rw [attempt_cons_of_error wasAsked]
          simp only [answer]
          rfl
      | ok quote =>
          rw [answer] at wasAsked
          rw [attempt_cons_of_ok wasAsked]
          simp only [answer]
          rfl

/-- A whole run comes to the same after earlier requests, and adds its own. -/
theorem ran_requests (mode : HashingMode) (findings : Findings)
    (files : FileSystem) (requests : List ReportData) :
    ran mode findings generator ⟨files, requests⟩ =
      (ran mode findings generator ⟨files, []⟩).behind requests := by
  unfold ran
  cases findings.outcome with
  | error error => simp [Step.behind]
  | ok provenance => rfl

end

/-! ## The mode of a run -/

theorem mode_of_advance {pipeline left : Pipeline} {target : Stage}
    (advanced : pipeline.advance target = .ok left) :
    left.mode = pipeline.mode := by
  unfold advance at advanced
  split at advanced
  · cases advanced
    rfl
  · cases advanced

/-- Going on with a result does not change the mode. -/
theorem mode_of_record {α : Type} {pipeline left : Pipeline} {target : Stage}
    {result recorded : Except Error α}
    (isRecorded : pipeline.record target result = (recorded, left)) :
    left.mode = pipeline.mode := by
  unfold record at isRecorded
  split at isRecorded
  · cases isRecorded
    rfl
  · split at isRecorded
    · next advanced =>
        cases isRecorded
        exact mode_of_advance advanced
    · cases isRecorded
      rfl

theorem mode_recordFindings (pipeline : Pipeline) (findings : Findings) :
    (pipeline.recordFindings findings).2.mode = pipeline.mode := by
  unfold recordFindings
  split
  · next first => exact mode_of_record first
  · next first =>
      have afterFirst := mode_of_record first
      split
      · next second => exact (mode_of_record second).trans afterFirst
      · next second =>
          have afterSecond := (mode_of_record second).trans afterFirst
          split
          · next third => exact (mode_of_record third).trans afterSecond
          · next third => exact (mode_of_record third).trans afterSecond

theorem mode_resolveSequentially (pipeline : Pipeline) (paths : InputPaths)
    (resolver : Resolver) (files : FileSystem) :
    (pipeline.resolveSequentially paths resolver files).2.1.mode =
      pipeline.mode := by
  unfold resolveSequentially
  split
  · next first => exact mode_of_record first
  · next first =>
      have afterFirst := mode_of_record first
      split
      · next second => exact (mode_of_record second).trans afterFirst
      · next second =>
          have afterSecond := (mode_of_record second).trans afterFirst
          dsimp only
          split
          · next third => exact (mode_of_record third).trans afterSecond
          · next third => exact (mode_of_record third).trans afterSecond

theorem mode_resolveProvenance (pipeline : Pipeline) (schedule : Schedule)
    (paths : InputPaths) (resolver : Resolver) (world : World) :
    (pipeline.resolveProvenance schedule paths resolver world).pipeline.mode =
      pipeline.mode := by
  have inOrder :=
    pipeline.mode_resolveSequentially paths resolver world.files
  have atOnce := pipeline.mode_recordFindings
    (Findings.gather schedule paths resolver world.files).1
  unfold resolveProvenance
  split
  · rfl
  · cases isMode : pipeline.mode with
    | sequential =>
        dsimp only
        split
        · exact inOrder.trans isMode
        · exact inOrder.trans isMode
    | concurrent =>
        dsimp only [resolveConcurrently]
        split
        · exact atOnce.trans isMode
        · exact atOnce.trans isMode

theorem mode_bind (pipeline : Pipeline) (world : World) :
    (pipeline.bind world).pipeline.mode = pipeline.mode := by
  unfold bind
  split
  · split
    · next advanced =>
        have kept := mode_of_advance advanced
        exact kept
    · rfl
  · rfl

theorem mode_requestQuote (pipeline : Pipeline) (generator : Generator)
    (world : World) :
    (pipeline.requestQuote generator world).pipeline.mode =
      pipeline.mode := by
  unfold requestQuote
  split
  · split
    · next advanced =>
        exact (mode_of_record rfl).trans (mode_of_advance advanced)
    · rfl
  · rfl

theorem mode_prepare (pipeline : Pipeline) (schedule : Schedule)
    (paths : InputPaths) (resolver : Resolver) (world : World) :
    (pipeline.prepare schedule paths resolver world).pipeline.mode =
      pipeline.mode := by
  have wasResolved :=
    pipeline.reset.mode_resolveProvenance schedule paths resolver world
  unfold prepare
  split
  · next failed =>
      rw [failed] at wasResolved
      exact wasResolved
  · next left changed succeeded =>
      rw [succeeded] at wasResolved
      have wasBound := left.mode_bind changed
      split
      · next refused =>
          rw [refused] at wasBound
          exact wasBound.trans wasResolved
      · next bound =>
          rw [bound] at wasBound
          exact wasBound.trans wasResolved

theorem mode_run (pipeline : Pipeline) (schedule : Schedule)
    (paths : InputPaths) (resolver : Resolver) (generator : Generator)
    (world : World) :
    (pipeline.run schedule paths resolver generator world).pipeline.mode =
      pipeline.mode := by
  have wasPrepared := pipeline.mode_prepare schedule paths resolver world
  unfold run
  split
  · next failed =>
      rw [failed] at wasPrepared
      exact wasPrepared
  · next left changed succeeded =>
      rw [succeeded] at wasPrepared
      have asked := left.mode_requestQuote generator changed
      split
      · next refused =>
          rw [refused] at asked
          exact asked.trans wasPrepared
      · next answered =>
          rw [answered] at asked
          exact asked.trans wasPrepared

/-- No operation changes the mode of a run. -/
theorem mode_perform (pipeline : Pipeline)
    (operation : Operation) (world : World) :
    (operation.perform pipeline world).pipeline.mode = pipeline.mode := by
  cases operation with
  | reset => rfl
  | resolve schedule paths resolver =>
      exact pipeline.mode_resolveProvenance schedule paths resolver world
  | bind => exact pipeline.mode_bind world
  | requestQuote generator =>
      exact pipeline.mode_requestQuote generator world
  | prepare schedule paths resolver =>
      exact pipeline.mode_prepare schedule paths resolver world
  | run schedule paths resolver generator =>
      exact pipeline.mode_run schedule paths resolver generator world

theorem mode_afterTurns (pipeline : Pipeline) (turns : List Turn) :
    (pipeline.afterTurns turns).mode = pipeline.mode := by
  induction turns generalizing pipeline with
  | nil => rfl
  | cons turn turns inductionHypothesis =>
      calc
        (pipeline.afterTurns (turn :: turns)).mode
          = ((pipeline.step turn).pipeline.afterTurns turns).mode := rfl
        _ = (pipeline.step turn).pipeline.mode := inductionHypothesis _
        _ = pipeline.mode := pipeline.mode_perform turn.operation _

/-! ## Runs that are used again -/

/-- A run behaves as a new run of a mode in all calls that begin it again, with
resolvers that only read and on whatever schedules. -/
structure BeginsAfresh (mode : HashingMode) (pipeline : Pipeline) :
    Prop where
  /-- Preparing has the same result, leaves the same run and makes the same
  requests. -/
  prepares : ∀ schedule other paths lookUp world,
    pipeline.prepare schedule paths (.reading lookUp) world =
      (new mode).prepare other paths (.reading lookUp) world
  /-- So does a whole run. -/
  runs : ∀ schedule other paths lookUp generator world,
    pipeline.run schedule paths (.reading lookUp) generator world =
      (new mode).run other paths (.reading lookUp) generator world
  /-- A whole run is its operations one after the other, up to the first that
  fails. -/
  runsStepwise : ∀ schedule other paths lookUp generator world,
    pipeline.attempt world
        (Operation.ofRun other paths (.reading lookUp) generator) =
      (pipeline.run schedule paths (.reading lookUp) generator world).map
        Attestation.answers
  /-- Two whole runs on the same files have the same result, leave the same run
  and make the same requests. -/
  runsTwice : ∀ schedule other paths lookUp generator files requests,
    let first := pipeline.run schedule paths (.reading lookUp) generator
      ⟨files, requests⟩
    let again := first.pipeline.run other paths (.reading lookUp) generator
      ⟨files, first.world.requests⟩
    again.result = first.result ∧ again.pipeline = first.pipeline ∧
      again.world.files = first.world.files ∧
        ∃ asked, first.world.requests = requests ++ asked ∧
          again.world.requests = requests ++ asked ++ asked

/-- Whatever has been done with a new run, it behaves as a new one as soon as it
is begun again. -/
theorem beginsAfresh_afterTurns (mode : HashingMode) (turns : List Turn) :
    BeginsAfresh mode ((new mode).afterTurns turns) := by
  have sameMode : ((new mode).afterTurns turns).mode = mode :=
    (new mode).mode_afterTurns turns
  generalize (new mode).afterTurns turns = pipeline at sameMode
  constructor
  case prepares =>
    intro schedule other paths lookUp world
    rw [prepare_reading, prepare_reading, sameMode]
    rfl
  case runs =>
    intro schedule other paths lookUp generator world
    rw [run_reading, run_reading, sameMode]
    rfl
  case runsStepwise =>
    intro schedule other paths lookUp generator world
    rw [attempt_reading, run_reading]
  case runsTwice =>
    intro schedule other paths lookUp generator files requests first again
    have isFirst : first =
        (ran mode (.direct paths lookUp files) generator
          ⟨files, []⟩).behind requests := by
      rw [← ran_requests, ← sameMode]
      exact run_reading schedule paths lookUp generator ⟨files, requests⟩ _
    have keptMode : first.pipeline.mode = mode := by
      rw [← sameMode]
      exact pipeline.mode_run schedule paths _ generator ⟨files, requests⟩
    have isAgain : again =
        (ran mode (.direct paths lookUp files) generator
          ⟨files, []⟩).behind first.world.requests := by
      rw [← ran_requests, ← keptMode]
      exact run_reading other paths lookUp generator
        ⟨files, first.world.requests⟩ _
    rw [isAgain, isFirst]
    exact ⟨rfl, rfl, rfl, _, rfl, rfl⟩

end Pipeline
end ReportBinding
