import ReportBinding.Proofs.Pipeline.Landing

/-!
# What generators are asked

The calls of generators and the searches of the inputs that each turn makes.  A
turn makes one call at the most and leaves exactly its calls in the world
(`requests_step`), together with the files that the call leaves
(`Landed.leavesFiles`); it fails exactly if the generator does (`answer_step`).
-/

namespace ReportBinding

/-- A call of a generator on the files at the time. -/
structure Call where
  generator : Generator
  files : FileSystem
  reportData : ReportData

/-- What the generator answers. -/
def Call.answer (call : Call) : Except Error Quote :=
  (call.generator.generate call.files call.reportData).1

/-- The files that a call leaves. -/
def Call.left (call : Call) : FileSystem :=
  (call.generator.generate call.files call.reportData).2

/-- Whether an operation begins the run again. -/
def Operation.beginsAgain : Operation → Bool
  | .reset => true
  | .prepare _ _ _ => true
  | .run _ _ _ _ => true
  | _ => false

namespace Pipeline

/-- The calls that asking for a quote makes. -/
def callsFor (pipeline : Pipeline) (generator : Generator)
    (files : FileSystem) : List Call :=
  match pipeline.stage, pipeline.reportData with
  | .bound, some reportData => [⟨generator, files, reportData⟩]
  | _, _ => []

/-- The calls that a turn makes. -/
def calls (pipeline : Pipeline) (turn : Turn) : List Call :=
  match turn.operation with
  | .requestQuote generator => pipeline.callsFor generator turn.files
  | .run schedule paths resolver generator =>
      match pipeline.prepare schedule paths resolver ⟨turn.files, []⟩ with
      | ⟨.ok _, prepared, world⟩ => prepared.callsFor generator world.files
      | ⟨.error _, _, _⟩ => []
  | _ => []

/-- What a turn finds out about the inputs, if it looks for them. -/
def searches (pipeline : Pipeline) (turn : Turn) : List Findings :=
  match turn.operation with
  | .resolve schedule paths resolver =>
      if pipeline.stage = .unbuilt then
        [(Findings.search pipeline.mode schedule paths resolver
          turn.files).1]
      else []
  | .prepare schedule paths resolver =>
      [(Findings.search pipeline.mode schedule paths resolver turn.files).1]
  | .run schedule paths resolver _ =>
      [(Findings.search pipeline.mode schedule paths resolver turn.files).1]
  | _ => []

/-- The files once a turn has looked for the inputs, if it does. -/
def filesSearched (pipeline : Pipeline) (turn : Turn) : FileSystem :=
  match turn.operation with
  | .resolve schedule paths resolver =>
      if pipeline.stage = .unbuilt then
        (Findings.search pipeline.mode schedule paths resolver turn.files).2
      else turn.files
  | .prepare schedule paths resolver =>
      (Findings.search pipeline.mode schedule paths resolver turn.files).2
  | .run schedule paths resolver _ =>
      (Findings.search pipeline.mode schedule paths resolver turn.files).2
  | _ => turn.files

theorem callsFor_boundTo (mode : HashingMode) (provenance : Provenance)
    (generator : Generator) (files : FileSystem) :
    (boundTo mode provenance).callsFor generator files =
      [⟨generator, files, provenance.reportData⟩] := rfl

theorem callsFor_of_ne {pipeline : Pipeline}
    (notBound : pipeline.stage ≠ .bound) (generator : Generator)
    (files : FileSystem) : pipeline.callsFor generator files = [] := by
  unfold callsFor
  split
  · next isBound _ => exact absurd isBound notBound
  · rfl

theorem length_callsFor (pipeline : Pipeline) (generator : Generator)
    (files : FileSystem) :
    (pipeline.callsFor generator files).length ≤ 1 := by
  unfold callsFor
  split <;> simp

/-- Asking for a quote adds its calls to the requests of the world. -/
theorem requests_requestQuote (pipeline : Pipeline) (generator : Generator)
    (world : World) :
    (pipeline.requestQuote generator world).world.requests =
      world.requests ++
        (pipeline.callsFor generator world.files).map Call.reportData := by
  obtain ⟨mode, stage, history, provenance, reportData⟩ := pipeline
  cases stage with
  | bound =>
      cases reportData with
      | none => simp [requestQuote, callsFor]
      | some reportData =>
          simp [requestQuote, callsFor, advance, Stage.next?]
  | unbuilt => simp [requestQuote, callsFor]
  | toolchainHashed => simp [requestQuote, callsFor]
  | proofHashed => simp [requestQuote, callsFor]
  | revisionResolved => simp [requestQuote, callsFor]
  | quoteRequested => simp [requestQuote, callsFor]
  | done => simp [requestQuote, callsFor]
  | failed => simp [requestQuote, callsFor]

section

variable {schedule : Schedule} {paths : InputPaths} {resolver : Resolver}
  {generator : Generator} {files left : FileSystem} {findings : Findings}

/-- A whole run makes no call if an input is not found. -/
theorem calls_run_of_error {error : Error} (pipeline : Pipeline)
    (searched : Findings.search pipeline.mode schedule paths resolver files =
      (findings, left))
    (failed : findings.outcome = .error error) :
    pipeline.calls ⟨files, .run schedule paths resolver generator⟩ = [] := by
  simp only [calls, pipeline.prepare_of_error [] searched failed]

/-- A whole run makes one call, over what it has found. -/
theorem calls_run_of_ok {provenance : Provenance} (pipeline : Pipeline)
    (searched : Findings.search pipeline.mode schedule paths resolver files =
      (findings, left))
    (succeeded : findings.outcome = .ok provenance) :
    pipeline.calls ⟨files, .run schedule paths resolver generator⟩ =
      [⟨generator, left, provenance.reportData⟩] := by
  simp only [calls, pipeline.prepare_of_ok [] searched succeeded,
    callsFor_boundTo]

end

theorem requests_resolveProvenance (pipeline : Pipeline)
    (schedule : Schedule) (paths : InputPaths) (resolver : Resolver)
    (world : World) :
    (pipeline.resolveProvenance schedule paths resolver
      world).world.requests = world.requests := by
  unfold resolveProvenance
  split
  · rfl
  · split
    next result _ _ _ => cases result <;> rfl

theorem world_bind (pipeline : Pipeline) (world : World) :
    (pipeline.bind world).world = world := by
  unfold bind
  split
  · split <;> rfl
  · rfl

/-- The requests of the world are the calls that a turn makes, and no
others. -/
theorem requests_step (pipeline : Pipeline) (turn : Turn) :
    (pipeline.step turn).world.requests =
      (pipeline.calls turn).map Call.reportData := by
  obtain ⟨files, operation⟩ := turn
  cases operation with
  | reset => rfl
  | resolve schedule paths resolver =>
      exact pipeline.requests_resolveProvenance schedule paths resolver _
  | bind => exact congrArg World.requests (pipeline.world_bind ⟨files, []⟩)
  | requestQuote generator =>
      exact pipeline.requests_requestQuote generator ⟨files, []⟩
  | prepare schedule paths resolver =>
      rcases searched : Findings.search pipeline.mode schedule paths resolver
        files with ⟨findings, left⟩
      cases outcome : findings.outcome with
      | error error =>
          exact congrArg (·.world.requests)
            (pipeline.prepare_of_error [] searched outcome)
      | ok provenance =>
          exact congrArg (·.world.requests)
            (pipeline.prepare_of_ok [] searched outcome)
  | run schedule paths resolver generator =>
      rcases searched : Findings.search pipeline.mode schedule paths resolver
        files with ⟨findings, left⟩
      cases outcome : findings.outcome with
      | error error =>
          rw [pipeline.calls_run_of_error searched outcome]
          exact congrArg (·.world.requests)
            (pipeline.run_of_error [] searched outcome)
      | ok provenance =>
          rw [pipeline.calls_run_of_ok searched outcome]
          exact congrArg (·.world.requests)
            (pipeline.run_of_ok [] searched outcome rfl)

/-- How a turn treats the files: it leaves those that its search leaves, or
makes a call on them and leaves those that the call leaves. -/
structure LeavesFiles (pipeline : Pipeline) (turn : Turn) : Prop where
  called : ∀ call ∈ pipeline.calls turn,
    call.files = pipeline.filesSearched turn ∧
      (pipeline.step turn).world.files = call.left
  uncalled : pipeline.calls turn = [] →
    (pipeline.step turn).world.files = pipeline.filesSearched turn

theorem LeavesFiles.of_uncalled {pipeline : Pipeline} {turn : Turn}
    (noCall : pipeline.calls turn = [])
    (left : (pipeline.step turn).world.files = pipeline.filesSearched turn) :
    pipeline.LeavesFiles turn where
  called call isCalled := by
    rw [noCall] at isCalled
    cases isCalled
  uncalled _ := left

theorem LeavesFiles.of_called {pipeline : Pipeline} {turn : Turn}
    {call : Call} (oneCall : pipeline.calls turn = [call])
    (onSearched : call.files = pipeline.filesSearched turn)
    (left : (pipeline.step turn).world.files = call.left) :
    pipeline.LeavesFiles turn where
  called other isCalled := by
    rw [oneCall, List.mem_singleton] at isCalled
    rw [isCalled]
    exact ⟨onSearched, left⟩
  uncalled noCall := by
    rw [oneCall] at noCall
    cases noCall

section

variable {pipeline : Pipeline} (landed : Landed pipeline)
  (files : FileSystem) (schedule : Schedule) (paths : InputPaths)
  (resolver : Resolver) (generator : Generator)

include landed in
theorem Landed.leavesFiles_resolve :
    pipeline.LeavesFiles ⟨files, .resolve schedule paths resolver⟩ := by
  refine .of_uncalled rfl ?_
  by_cases isUnbuilt : pipeline.stage = .unbuilt
  · rw [landed.eq_new isUnbuilt]
    rcases searched : Findings.search pipeline.mode schedule paths resolver
      files with ⟨findings, left⟩
    have isSearched : (Pipeline.new pipeline.mode).filesSearched
        ⟨files, .resolve schedule paths resolver⟩ = left := by
      simp only [filesSearched, Pipeline.new, if_true, searched]
    rw [isSearched]
    cases outcome : findings.outcome with
    | error error =>
        exact congrArg (·.world.files)
          (resolveProvenance_of_error [] searched outcome)
    | ok provenance =>
        exact congrArg (·.world.files)
          (resolveProvenance_of_ok [] searched outcome)
  · have isSearched : pipeline.filesSearched
        ⟨files, .resolve schedule paths resolver⟩ = files := if_neg isUnbuilt
    rw [isSearched]
    exact congrArg (·.world.files)
      (resolveProvenance_of_ne isUnbuilt schedule paths resolver ⟨files, []⟩)

include landed in
theorem Landed.leavesFiles_requestQuote :
    pipeline.LeavesFiles ⟨files, .requestQuote generator⟩ := by
  by_cases isBound : pipeline.stage = .bound
  · obtain ⟨provenance, equal⟩ := landed.eq_boundTo isBound
    rw [equal]
    exact .of_called (callsFor_boundTo pipeline.mode provenance generator files)
      rfl (congrArg (·.world.files)
        (requestQuote_boundTo pipeline.mode [] rfl))
  · exact .of_uncalled (callsFor_of_ne isBound generator files)
      (congrArg (·.world.files)
        (requestQuote_of_ne isBound generator ⟨files, []⟩))

theorem leavesFiles_prepare :
    pipeline.LeavesFiles ⟨files, .prepare schedule paths resolver⟩ := by
  refine .of_uncalled rfl ?_
  rcases searched : Findings.search pipeline.mode schedule paths resolver files
    with ⟨findings, left⟩
  simp only [filesSearched, searched]
  cases outcome : findings.outcome with
  | error error =>
      exact congrArg (·.world.files)
        (pipeline.prepare_of_error [] searched outcome)
  | ok provenance =>
      exact congrArg (·.world.files)
        (pipeline.prepare_of_ok [] searched outcome)

theorem leavesFiles_run :
    pipeline.LeavesFiles
      ⟨files, .run schedule paths resolver generator⟩ := by
  rcases searched : Findings.search pipeline.mode schedule paths resolver files
    with ⟨findings, left⟩
  have isSearched : pipeline.filesSearched
      ⟨files, .run schedule paths resolver generator⟩ = left := by
    simp only [filesSearched, searched]
  cases outcome : findings.outcome with
  | error error =>
      refine .of_uncalled (pipeline.calls_run_of_error searched outcome) ?_
      rw [isSearched]
      exact congrArg (·.world.files)
        (pipeline.run_of_error [] searched outcome)
  | ok provenance =>
      refine .of_called (pipeline.calls_run_of_ok searched outcome)
        isSearched.symm ?_
      exact congrArg (·.world.files)
        (pipeline.run_of_ok [] searched outcome rfl)

end

/-- Every turn of a run that operations have led to treats the files so. -/
theorem Landed.leavesFiles {pipeline : Pipeline} (landed : Landed pipeline)
    (turn : Turn) : pipeline.LeavesFiles turn := by
  obtain ⟨files, operation⟩ := turn
  cases operation with
  | reset => exact .of_uncalled rfl rfl
  | resolve schedule paths resolver =>
      exact landed.leavesFiles_resolve files schedule paths resolver
  | bind =>
      exact .of_uncalled rfl
        (congrArg World.files (pipeline.world_bind ⟨files, []⟩))
  | requestQuote generator =>
      exact landed.leavesFiles_requestQuote files generator
  | prepare schedule paths resolver =>
      exact leavesFiles_prepare files schedule paths resolver
  | run schedule paths resolver generator =>
      exact leavesFiles_run files schedule paths resolver generator

theorem length_calls (pipeline : Pipeline) (turn : Turn) :
    (pipeline.calls turn).length ≤ 1 := by
  obtain ⟨files, operation⟩ := turn
  cases operation with
  | reset => exact Nat.zero_le 1
  | resolve schedule paths resolver => exact Nat.zero_le 1
  | bind => exact Nat.zero_le 1
  | requestQuote generator => exact pipeline.length_callsFor generator files
  | prepare schedule paths resolver => exact Nat.zero_le 1
  | run schedule paths resolver generator =>
      rcases prepared : pipeline.prepare schedule paths resolver ⟨files, []⟩
        with ⟨result, left, world⟩
      cases result with
      | error error => simp [calls, prepared]
      | ok bound =>
          have fewer := length_callsFor left generator world.files
          simpa only [calls, prepared] using fewer

/-- A turn that makes a call fails exactly if the generator does, with its
error. -/
theorem answer_step {pipeline : Pipeline} {turn : Turn} {call : Call}
    (landed : Landed pipeline) (asked : call ∈ pipeline.calls turn)
    (error : Error) :
    call.answer = .error error ↔
      (pipeline.step turn).result = .error error := by
  obtain ⟨files, operation⟩ := turn
  cases operation with
  | reset => cases asked
  | resolve schedule paths resolver => cases asked
  | bind => cases asked
  | prepare schedule paths resolver => cases asked
  | requestQuote generator =>
      have askedFor : call ∈ pipeline.callsFor generator files := asked
      by_cases isBound : pipeline.stage = .bound
      · obtain ⟨provenance, equal⟩ := landed.eq_boundTo isBound
        rw [equal, callsFor_boundTo, List.mem_singleton] at askedFor
        rw [equal, askedFor]
        simp only [step, Operation.perform, requestQuote_boundTo _ [] rfl,
          Step.map, Call.answer]
        cases (generator.generate files provenance.reportData).1 <;>
          simp [Except.map]
      · rw [callsFor_of_ne isBound] at askedFor
        cases askedFor
  | run schedule paths resolver generator =>
      rcases searched : Findings.search pipeline.mode schedule paths resolver
        files with ⟨findings, left⟩
      cases outcome : findings.outcome with
      | error failure =>
          rw [pipeline.calls_run_of_error searched outcome] at asked
          cases asked
      | ok provenance =>
          rw [pipeline.calls_run_of_ok searched outcome,
            List.mem_singleton] at asked
          simp only [asked, step, Operation.perform,
            pipeline.run_of_ok [] searched outcome rfl, Step.map, Call.answer]
          cases (generator.generate left provenance.reportData).1 <;>
            simp [Except.map]

/-- A whole run that succeeds has made one call, over the report data of its
provenance, and gives the answer back as it is. -/
theorem calls_of_run_eq_ok {pipeline : Pipeline} {files : FileSystem}
    {schedule : Schedule} {paths : InputPaths} {resolver : Resolver}
    {generator : Generator} {attestation : Attestation}
    (succeeded : (pipeline.run schedule paths resolver generator
      ⟨files, []⟩).result = .ok attestation) :
    ∃ call,
      pipeline.calls ⟨files, .run schedule paths resolver generator⟩ =
          [call] ∧
        call.generator = generator ∧
          call.reportData = attestation.reportData ∧
            attestation.reportData = attestation.provenance.reportData ∧
              call.answer = .ok attestation.quote := by
  rcases searched : Findings.search pipeline.mode schedule paths resolver
    files with ⟨findings, left⟩
  cases outcome : findings.outcome with
  | error error =>
      rw [pipeline.run_of_error [] searched outcome] at succeeded
      cases succeeded
  | ok provenance =>
      rw [pipeline.run_of_ok [] searched outcome rfl] at succeeded
      refine ⟨_, pipeline.calls_run_of_ok searched outcome, rfl, ?_⟩
      unfold Call.answer
      cases answer : (generator.generate left provenance.reportData).1 with
      | error error =>
          rw [answer] at succeeded
          cases succeeded
      | ok quote =>
          rw [answer] at succeeded
          cases succeeded
          exact ⟨rfl, rfl, rfl⟩

end Pipeline

end ReportBinding
