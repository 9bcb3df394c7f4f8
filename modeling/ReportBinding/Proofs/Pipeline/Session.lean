import ReportBinding.Proofs.Pipeline.Calls
import ReportBinding.Proofs.Pipeline.Preparation

/-!
# What generators are asked in sessions

A session is a run together with what has been searched and asked since it last
began again.  `Session.Traced` ties the two to the state of the run, and every
turn keeps it so.  Hence a generator is called once at the most before the run
begins again, over the report data of the provenance that was found, and never
when an input failed or after it has failed itself.
-/

namespace ReportBinding

/-- A run with what has happened since it last began again. -/
structure Session where
  pipeline : Pipeline
  /-- What has been found out about the inputs. -/
  searches : List Findings
  /-- The calls of generators. -/
  calls : List Call

namespace Session

/-- A new run, to which nothing has happened. -/
def start (mode : HashingMode) : Session :=
  ⟨.new mode, [], []⟩

/-- The session after a turn. -/
def after (session : Session) (turn : Turn) : Session where
  pipeline := (session.pipeline.step turn).pipeline
  searches :=
    (if turn.operation.beginsAgain then [] else session.searches) ++
      session.pipeline.searches turn
  calls :=
    (if turn.operation.beginsAgain then [] else session.calls) ++
      session.pipeline.calls turn

/-- The session after a sequence of turns. -/
def afterTurns (session : Session) (turns : List Turn) : Session :=
  turns.foldl after session

/-- How the state of a run, what was searched and what was asked belong
together. -/
inductive Traced : Session → Prop where
  | new (mode : HashingMode) : Traced ⟨.new mode, [], []⟩
  | unresolved (mode : HashingMode) {findings : Findings} {error : Error}
      (failed : findings.outcome = .error error) :
      Traced ⟨.unresolved mode findings.found, [findings], []⟩
  | resolved (mode : HashingMode) {findings : Findings}
      {provenance : Provenance}
      (succeeded : findings.outcome = .ok provenance) :
      Traced ⟨.resolved mode provenance, [findings], []⟩
  | boundTo (mode : HashingMode) {findings : Findings}
      {provenance : Provenance}
      (succeeded : findings.outcome = .ok provenance) :
      Traced ⟨.boundTo mode provenance, [findings], []⟩
  | answered (mode : HashingMode) {findings : Findings}
      {provenance : Provenance} {call : Call}
      (succeeded : findings.outcome = .ok provenance)
      (asked : call.reportData = provenance.reportData) :
      Traced ⟨.answered mode provenance call.answer, [findings], [call]⟩

variable {session : Session}

/-- The state of a session is one that operations leave runs in. -/
theorem Traced.landed (traced : Traced session) :
    Pipeline.Landed session.pipeline := by
  cases traced with
  | new mode => exact .new mode
  | unresolved mode failed =>
      exact .unresolved mode _ (Findings.found_lt_of_outcome failed)
  | resolved mode succeeded => exact .resolved mode _
  | boundTo mode succeeded => exact .boundTo mode _
  | answered mode succeeded asked => exact .answered mode _ _

/-- Before a run begins there is nothing in its session. -/
theorem Traced.eq_new (traced : Traced session)
    (isUnbuilt : session.pipeline.stage = .unbuilt) :
    session = ⟨.new session.pipeline.mode, [], []⟩ := by
  cases traced with
  | new mode => rfl
  | unresolved mode failed => cases isUnbuilt
  | resolved mode succeeded => cases isUnbuilt
  | boundTo mode succeeded => cases isUnbuilt
  | answered mode succeeded asked =>
      exact absurd isUnbuilt
        (Stage.ne_of_isTerminal (Pipeline.isTerminal_answered mode _ _) rfl)

theorem Traced.eq_resolved (traced : Traced session)
    (isResolved : session.pipeline.stage = .revisionResolved) :
    ∃ findings provenance, findings.outcome = .ok provenance ∧
      session =
        ⟨.resolved session.pipeline.mode provenance, [findings], []⟩ := by
  cases traced with
  | new mode => cases isResolved
  | unresolved mode failed => cases isResolved
  | resolved mode succeeded => exact ⟨_, _, succeeded, rfl⟩
  | boundTo mode succeeded => cases isResolved
  | answered mode succeeded asked =>
      exact absurd isResolved
        (Stage.ne_of_isTerminal (Pipeline.isTerminal_answered mode _ _) rfl)

theorem Traced.eq_boundTo (traced : Traced session)
    (isBound : session.pipeline.stage = .bound) :
    ∃ findings provenance, findings.outcome = .ok provenance ∧
      session =
        ⟨.boundTo session.pipeline.mode provenance, [findings], []⟩ := by
  cases traced with
  | new mode => cases isBound
  | unresolved mode failed => cases isBound
  | resolved mode succeeded => cases isBound
  | boundTo mode succeeded => exact ⟨_, _, succeeded, rfl⟩
  | answered mode succeeded asked =>
      exact absurd isBound
        (Stage.ne_of_isTerminal (Pipeline.isTerminal_answered mode _ _) rfl)

/-- A turn that does not begin again, searches nothing, makes no call and
leaves the run as it is. -/
theorem after_eq_self {turn : Turn}
    (goesOn : turn.operation.beginsAgain = false)
    (kept : (session.pipeline.step turn).pipeline = session.pipeline)
    (noSearch : session.pipeline.searches turn = [])
    (noCall : session.pipeline.calls turn = []) :
    session.after turn = session := by
  unfold after
  rw [goesOn, kept, noSearch, noCall]
  simp

/-- Resolving keeps a session traced. -/
theorem Traced.resolve (traced : Traced session) (files : FileSystem)
    (schedule : Schedule) (paths : InputPaths) (resolver : Resolver) :
    Traced (session.after ⟨files, .resolve schedule paths resolver⟩) := by
  by_cases isUnbuilt : session.pipeline.stage = .unbuilt
  · rw [traced.eq_new isUnbuilt]
    rcases searched : Findings.search session.pipeline.mode schedule paths
      resolver files with ⟨findings, left⟩
    have oneSearch : (Pipeline.new session.pipeline.mode).searches
        ⟨files, .resolve schedule paths resolver⟩ = [findings] := by
      simp only [Pipeline.searches, Pipeline.new, if_true, searched]
    cases outcome : findings.outcome with
    | error error =>
        have resolved :=
          Pipeline.resolveProvenance_of_error [] searched outcome
        simp only [after, oneSearch, Pipeline.step, Operation.perform,
          resolved]
        exact .unresolved _ outcome
    | ok provenance =>
        have resolved :=
          Pipeline.resolveProvenance_of_ok [] searched outcome
        simp only [after, oneSearch, Pipeline.step, Operation.perform,
          resolved]
        exact .resolved _ outcome
  · have refused := Pipeline.resolveProvenance_of_ne isUnbuilt schedule paths
      resolver ⟨files, []⟩
    have kept : session.after ⟨files, .resolve schedule paths resolver⟩ =
        session := by
      refine after_eq_self rfl ?_ ?_ rfl
      · exact congrArg Step.pipeline refused
      · exact if_neg isUnbuilt
    rw [kept]
    exact traced

theorem Traced.bind (traced : Traced session) (files : FileSystem) :
    Traced (session.after ⟨files, .bind⟩) := by
  by_cases isResolved : session.pipeline.stage = .revisionResolved
  · obtain ⟨findings, provenance, succeeded, equal⟩ :=
      traced.eq_resolved isResolved
    rw [equal]
    exact .boundTo _ succeeded
  · have kept : session.after ⟨files, .bind⟩ = session := by
      refine after_eq_self rfl ?_ rfl rfl
      have refused := Pipeline.bind_of_ne isResolved ⟨files, []⟩
      exact congrArg Step.pipeline refused
    rw [kept]
    exact traced

theorem Traced.requestQuote (traced : Traced session) (files : FileSystem)
    (generator : Generator) :
    Traced (session.after ⟨files, .requestQuote generator⟩) := by
  by_cases isBound : session.pipeline.stage = .bound
  · obtain ⟨findings, provenance, succeeded, equal⟩ :=
      traced.eq_boundTo isBound
    rw [equal]
    simp only [after, Pipeline.step, Operation.perform,
      Pipeline.requestQuote_boundTo _ [] rfl, Pipeline.searches,
      Pipeline.calls, Pipeline.callsFor_boundTo]
    exact @Traced.answered _ _ _ ⟨generator, files, provenance.reportData⟩
      succeeded rfl
  · have kept : session.after ⟨files, .requestQuote generator⟩ =
        session := by
      refine after_eq_self rfl ?_ rfl ?_
      · have refused :=
          Pipeline.requestQuote_of_ne isBound generator ⟨files, []⟩
        exact congrArg Step.pipeline refused
      · exact Pipeline.callsFor_of_ne isBound generator files
    rw [kept]
    exact traced

/-- Preparing leaves any session traced. -/
theorem Traced.prepare (session : Session) (files : FileSystem)
    (schedule : Schedule) (paths : InputPaths) (resolver : Resolver) :
    Traced (session.after ⟨files, .prepare schedule paths resolver⟩) := by
  rcases searched : Findings.search session.pipeline.mode schedule paths
    resolver files with ⟨findings, left⟩
  cases outcome : findings.outcome with
  | error error =>
      have prepared := session.pipeline.prepare_of_error [] searched outcome
      simp only [after, Pipeline.step, Operation.perform, prepared,
        Pipeline.searches, searched]
      exact .unresolved _ outcome
  | ok provenance =>
      have prepared := session.pipeline.prepare_of_ok [] searched outcome
      simp only [after, Pipeline.step, Operation.perform, prepared,
        Pipeline.searches, searched]
      exact .boundTo _ outcome

theorem Traced.run (session : Session) (files : FileSystem)
    (schedule : Schedule) (paths : InputPaths) (resolver : Resolver)
    (generator : Generator) :
    Traced
      (session.after ⟨files, .run schedule paths resolver generator⟩) := by
  rcases searched : Findings.search session.pipeline.mode schedule paths
    resolver files with ⟨findings, left⟩
  cases outcome : findings.outcome with
  | error error =>
      simp only [after, session.pipeline.calls_run_of_error searched outcome,
        Pipeline.step, Operation.perform,
        session.pipeline.run_of_error [] searched outcome,
        Pipeline.searches, searched]
      exact .unresolved _ outcome
  | ok provenance =>
      simp only [after, session.pipeline.calls_run_of_ok searched outcome,
        Pipeline.step, Operation.perform,
        session.pipeline.run_of_ok [] searched outcome rfl,
        Pipeline.searches, searched]
      exact @Traced.answered _ _ _ ⟨generator, left, provenance.reportData⟩
        outcome rfl

/-- Every turn keeps a session traced. -/
theorem Traced.after (traced : Traced session) (turn : Turn) :
    Traced (session.after turn) := by
  obtain ⟨files, operation⟩ := turn
  cases operation with
  | reset => exact .new session.pipeline.mode
  | resolve schedule paths resolver =>
      exact traced.resolve files schedule paths resolver
  | bind => exact traced.bind files
  | requestQuote generator => exact traced.requestQuote files generator
  | prepare schedule paths resolver =>
      exact .prepare session files schedule paths resolver
  | run schedule paths resolver generator =>
      exact .run session files schedule paths resolver generator

theorem Traced.afterTurns (traced : Traced session) (turns : List Turn) :
    Traced (session.afterTurns turns) := by
  induction turns generalizing session with
  | nil => exact traced
  | cons turn turns inductionHypothesis =>
      exact inductionHypothesis (traced.after turn)

theorem pipeline_afterTurns (session : Session) (turns : List Turn) :
    (session.afterTurns turns).pipeline =
      session.pipeline.afterTurns turns := by
  induction turns generalizing session with
  | nil => rfl
  | cons turn turns inductionHypothesis =>
      exact inductionHypothesis (session.after turn)

/-! ## What generators are asked at the most -/

/-- Once a run has ended, nothing happens to its session until the run begins
again. -/
theorem after_of_isTerminal {turn : Turn}
    (ended : session.pipeline.stage.isTerminal = true)
    (goesOn : turn.operation.beginsAgain = false) :
    session.after turn = session := by
  obtain ⟨files, operation⟩ := turn
  cases operation with
  | reset => cases goesOn
  | prepare schedule paths resolver => cases goesOn
  | run schedule paths resolver generator => cases goesOn
  | resolve schedule paths resolver =>
      have hasBegun : session.pipeline.stage ≠ .unbuilt :=
        Stage.ne_of_isTerminal ended rfl
      have refused := Pipeline.resolveProvenance_of_ne hasBegun schedule
        paths resolver ⟨files, []⟩
      refine after_eq_self rfl ?_ (if_neg hasBegun) rfl
      exact congrArg Step.pipeline refused
  | bind =>
      have refused :=
        Pipeline.bind_of_ne (Stage.ne_of_isTerminal ended rfl) ⟨files, []⟩
      exact after_eq_self rfl (congrArg Step.pipeline refused) rfl rfl
  | requestQuote generator =>
      have notBound : session.pipeline.stage ≠ .bound :=
        Stage.ne_of_isTerminal ended rfl
      have refused :=
        Pipeline.requestQuote_of_ne notBound generator ⟨files, []⟩
      refine after_eq_self rfl (congrArg Step.pipeline refused) rfl ?_
      exact Pipeline.callsFor_of_ne notBound generator files

/-- Once a run has ended, nothing happens to its session in any number of turns
that do not begin it again. -/
theorem afterTurns_of_isTerminal {turns : List Turn}
    (ended : session.pipeline.stage.isTerminal = true)
    (goOn : ∀ turn ∈ turns, turn.operation.beginsAgain = false) :
    session.afterTurns turns = session := by
  induction turns with
  | nil => rfl
  | cons turn turns inductionHypothesis =>
      have kept : session.after turn = session :=
        after_of_isTerminal ended (goOn turn List.mem_cons_self)
      have keptOn : session.afterTurns turns = session :=
        inductionHypothesis fun turn later =>
          goOn turn (List.mem_cons_of_mem _ later)
      calc
        session.afterTurns (turn :: turns)
          = (session.after turn).afterTurns turns := rfl
        _ = session.afterTurns turns := by rw [kept]
        _ = session := keptOn

/-- A run has ended once its generator has been called. -/
theorem Traced.isTerminal {call : Call} (traced : Traced session)
    (called : call ∈ session.calls) :
    session.pipeline.stage.isTerminal = true := by
  cases traced with
  | new mode => cases called
  | unresolved mode failed => cases called
  | resolved mode succeeded => cases called
  | boundTo mode succeeded => cases called
  | answered mode succeeded asked =>
      exact Pipeline.isTerminal_answered mode _ _

/-- Generators are called as they may be: this says so of the calls since the
run last began again, and of those that a next turn makes. -/
structure Disciplined (session : Session) : Prop where
  /-- The calls of a turn are the requests that it leaves in the world. -/
  recorded : ∀ turn, (session.pipeline.step turn).world.requests =
    (session.pipeline.calls turn).map Call.reportData
  /-- A turn leaves the files that its call leaves, which is made on those that
  the search leaves, or else those that the search leaves. -/
  leavesFiles : ∀ turn, session.pipeline.LeavesFiles turn
  /-- A turn that makes a call fails exactly if the generator does. -/
  answers : ∀ turn, ∀ call ∈ session.pipeline.calls turn, ∀ error,
    call.answer = .error error ↔
      (session.pipeline.step turn).result = .error error
  /-- A turn makes one call at the most. -/
  onceInTurn : ∀ turn, (session.pipeline.calls turn).length ≤ 1
  /-- There is one call at the most until the run begins again. -/
  onceSinceBegun : session.calls.length ≤ 1
  /-- A call is over the report data bound to the provenance that has been
  found since the run began. -/
  bound : ∀ call ∈ session.calls, ∃ findings provenance,
    session.searches = [findings] ∧ findings.outcome = .ok provenance ∧
      session.pipeline.provenance = some provenance ∧
        session.pipeline.reportData = some call.reportData ∧
          call.reportData = provenance.reportData
  /-- There is no call if an input has not been found. -/
  noneOnFailure : ∀ findings ∈ session.searches, findings.Fail →
    session.calls = []
  /-- A generator that has failed is not called until the run begins again. -/
  noRetry : ∀ call ∈ session.calls, ∀ error, call.answer = .error error →
    ∀ turns : List Turn,
      (∀ turn ∈ turns, turn.operation.beginsAgain = false) →
        (session.afterTurns turns).calls = session.calls
  /-- A whole run that succeeds has made one call, over the report data of its
  provenance, and gives the answer back as it is. -/
  completes : ∀ files schedule paths resolver generator attestation,
    (session.pipeline.step
      ⟨files, .run schedule paths resolver generator⟩).result =
        .ok (.attestation attestation) →
    ∃ call,
      session.pipeline.calls
          ⟨files, .run schedule paths resolver generator⟩ = [call] ∧
        call.generator = generator ∧
          call.reportData = attestation.reportData ∧
            attestation.reportData = attestation.provenance.reportData ∧
              call.answer = .ok attestation.quote

theorem Traced.length_calls (traced : Traced session) :
    session.calls.length ≤ 1 := by
  cases traced with
  | new mode => exact Nat.zero_le 1
  | unresolved mode failed => exact Nat.zero_le 1
  | resolved mode succeeded => exact Nat.zero_le 1
  | boundTo mode succeeded => exact Nat.zero_le 1
  | answered mode succeeded asked => exact Nat.le_refl 1

/-- A call is over the report data bound to the provenance that has been
found. -/
theorem Traced.bound_of_mem {call : Call} (traced : Traced session)
    (called : call ∈ session.calls) :
    ∃ findings provenance,
      session.searches = [findings] ∧ findings.outcome = .ok provenance ∧
        session.pipeline.provenance = some provenance ∧
          session.pipeline.reportData = some call.reportData ∧
            call.reportData = provenance.reportData := by
  cases traced with
  | new mode => cases called
  | unresolved mode failed => cases called
  | resolved mode succeeded => cases called
  | boundTo mode succeeded => cases called
  | answered mode succeeded asked =>
      rename_i findings provenance only
      have isOnly : call = only := List.mem_singleton.mp called
      refine ⟨findings, provenance, rfl, succeeded, ?_⟩
      rw [isOnly, asked]
      cases answer : only.answer <;> exact ⟨rfl, rfl, rfl⟩

theorem Traced.calls_eq_nil {findings : Findings} (traced : Traced session)
    (searched : findings ∈ session.searches) (failed : findings.Fail) :
    session.calls = [] := by
  rcases calls : session.calls with _ | ⟨call, rest⟩
  · rfl
  · have called : call ∈ session.calls := by
      rw [calls]
      exact List.mem_cons_self
    obtain ⟨only, provenance, isOnly, succeeded, -⟩ :=
      traced.bound_of_mem called
    rw [isOnly, List.mem_singleton] at searched
    obtain ⟨error, failed⟩ := findings.outcome_isError_iff.mpr failed
    rw [searched, succeeded] at failed
    cases failed

/-- Whatever is done with a new run, in whatever order, with whatever inputs,
resolvers and generators and on files that may change in between: generators
are called as they may be. -/
theorem disciplined_afterTurns (mode : HashingMode) (turns : List Turn) :
    Disciplined ((start mode).afterTurns turns) := by
  have traced : Traced ((start mode).afterTurns turns) :=
    (Traced.new mode).afterTurns turns
  constructor
  case recorded => exact Pipeline.requests_step _
  case leavesFiles => exact traced.landed.leavesFiles
  case answers =>
    intro turn call called error
    exact Pipeline.answer_step traced.landed called error
  case onceInTurn => exact Pipeline.length_calls _
  case onceSinceBegun => exact traced.length_calls
  case bound =>
    intro call called
    exact traced.bound_of_mem called
  case noneOnFailure =>
    intro findings searched failed
    exact traced.calls_eq_nil searched failed
  case noRetry =>
    intro call called error refused more goOn
    rw [afterTurns_of_isTerminal (traced.isTerminal called) goOn]
  case completes =>
    intro files schedule paths resolver generator attestation succeeded
    apply Pipeline.calls_of_run_eq_ok
    simp only [Pipeline.step, Operation.perform, Step.map] at succeeded
    generalize (Pipeline.run _ _ _ _ _ _).result = result at *
    cases result with
    | error error => cases succeeded
    | ok completed =>
        cases succeeded
        rfl

/-- A generator that gives the same answer to everything, and leaves a directory
behind. -/
def markingGenerator (answer : Except Error Quote) : Generator where
  name := "marking"
  generate files _ := (answer, files.put ["asked"] .directory)

/-- A whole run on two small files, with such a generator. -/
def sampleTurn (answer : Except Error Quote) : Turn where
  files := Preparation.sampleFiles
  operation := .run .binding ⟨"tool", "proof", "sdk"⟩
    (.reading fun _ _ => .ok Preparation.shortId) (markingGenerator answer)

/-- The call that such a run makes. -/
def sampleCall (answer : Except Error Quote) : Call where
  generator := markingGenerator answer
  files := Preparation.sampleFiles
  reportData := Provenance.reportData
    ⟨.ofContent [1], .ofContent [], Preparation.shortId⟩

theorem calls_sampleTurn (pipeline : Pipeline)
    (answer : Except Error Quote) :
    pipeline.calls (sampleTurn answer) = [sampleCall answer] := by
  have searched := Findings.search_reading pipeline.mode .binding
    ⟨"tool", "proof", "sdk"⟩ (fun _ _ => .ok Preparation.shortId)
    Preparation.sampleFiles
  have tool : Preparation.sampleFiles.Holds "tool" [1] := ⟨true, rfl⟩
  have proof : Preparation.sampleFiles.Holds "proof" [] := ⟨false, rfl⟩
  refine pipeline.calls_run_of_ok searched ?_
  rw [Findings.outcome_eq_ok_iff]
  refine ⟨?_, ?_, rfl⟩
  · exact (FileSystem.hashFile_eq_ok_iff _ .toolchain _ _).mpr
      ⟨_, tool, rfl⟩
  · exact (FileSystem.hashFile_eq_ok_iff _ .proof _ _).mpr ⟨_, proof, rfl⟩

/-- A generator that refuses is not asked again for the same run.  The next run
asks once more, and the directory that its generator leaves is there then. -/
theorem disciplined_afterTurns_sample :
    let refusal : Error := .generatorFailed "marking" (.other "refused")
    let refused := (start .sequential).afterTurns
      [sampleTurn (.error refusal)]
    let again : Turn := ⟨Preparation.sampleFiles,
      .requestQuote (markingGenerator (.ok ⟨[]⟩))⟩
    let next := refused.pipeline.step (sampleTurn (.ok ⟨[]⟩))
    refused.calls.length = 1 ∧
      (refused.afterTurns [again]).calls = refused.calls ∧
      ∃ reportData, next.world.requests = [reportData] ∧
        next.world.files =
          Preparation.sampleFiles.put ["asked"] .directory := by
  intro refusal refused again next
  have disciplined : Disciplined refused :=
    disciplined_afterTurns .sequential [sampleTurn (.error refusal)]
  have isCalled : refused.calls = [sampleCall (.error refusal)] :=
    calls_sampleTurn (.new .sequential) (.error refusal)
  have isNext := calls_sampleTurn refused.pipeline (.ok ⟨[]⟩)
  refine ⟨by rw [isCalled]; rfl, ?_, ?_⟩
  · refine disciplined.noRetry (sampleCall (.error refusal)) ?_ refusal rfl
      [again] (List.forall_mem_singleton.mpr rfl)
    rw [isCalled]
    exact List.mem_singleton_self _
  · refine ⟨(sampleCall (.ok ⟨[]⟩)).reportData, ?_, ?_⟩
    · have recorded := disciplined.recorded (sampleTurn (.ok ⟨[]⟩))
      rw [isNext] at recorded
      exact recorded
    · refine ((disciplined.leavesFiles (sampleTurn (.ok ⟨[]⟩))).called
        (sampleCall (.ok ⟨[]⟩)) ?_).2
      rw [isNext]
      exact List.mem_singleton_self _

end Session

end ReportBinding
