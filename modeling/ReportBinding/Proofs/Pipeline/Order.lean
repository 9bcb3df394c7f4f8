import ReportBinding.Proofs.Pipeline.Calls
import ReportBinding.Proofs.Pipeline.Modes

/-!
# Operations out of order

Resolving, binding and asking for a quote have a stage of their own.  In any
other stage they are refused and nothing changes: `Pipeline.perform_of_not_due`.
In their own stage nothing is left to refuse them, since the checks of the next
stage and of the values that are made on the way cannot fail: an operation
succeeds, or it ends the run with the error of an input that is not found or of
the generator, `Pipeline.Landed.perform_of_due`.
-/

namespace ReportBinding

/-! ## Errors about the order -/

/-- Whether an error says that an operation is out of order. -/
def Error.isOutOfOrder : Error → Bool
  | .invalidTransition _ _ => true
  | _ => false

/-- A result is not that an operation is out of order. -/
def RespectsOrder {α : Type} (result : Except Error α) : Prop :=
  ∀ error, result = .error error → error.isOutOfOrder = false

/-- A resolver does not itself answer that an operation is out of order. -/
def Resolver.IsOrderly (resolver : Resolver) : Prop :=
  ∀ files checkout, RespectsOrder (resolver files checkout).1

/-- A generator does not itself answer that an operation is out of order. -/
def Generator.IsOrderly (generator : Generator) : Prop :=
  ∀ files reportData, RespectsOrder (generator.generate files reportData).1

/-- What has been found out about the inputs is not that an operation is out of
order. -/
structure Findings.IsOrderly (findings : Findings) : Prop where
  toolchain : RespectsOrder findings.toolchain
  proof : RespectsOrder findings.proof
  revision : RespectsOrder findings.revision

theorem respectsOrder_error {α : Type} {error : Error}
    (isOther : error.isOutOfOrder = false) :
    RespectsOrder (.error error : Except Error α) := by
  intro other isError
  cases isError
  exact isOther

theorem respectsOrder_hashFile (files : FileSystem) (input : Input)
    (path : HostText) : RespectsOrder (files.hashFile input path) := by
  intro error failed
  unfold FileSystem.hashFile at failed
  split at failed
  · split at failed
    · cases failed
      rfl
    split at failed
    · cases failed
    · cases failed
      rfl
  · cases failed
    rfl

/-- A checkout that is refused is refused as not initialized. -/
theorem respectsOrder_blame {α : Type} (checkout : HostText)
    (result : Except Checkout.Fault α) :
    RespectsOrder (Checkout.blame checkout result) := by
  intro error failed
  cases result with
  | ok value => cases failed
  | error fault =>
      cases failed
      rfl

/-- The resolver that reads metadata is orderly. -/
theorem Checkout.isOrderly_metadataResolver :
    Resolver.IsOrderly metadataResolver := fun _ _ =>
  respectsOrder_blame _ _

/-- The resolver that asks a program is orderly, whatever the program does. -/
theorem Checkout.GitProgram.isOrderly_resolver (host : Program.Host)
    (program : GitProgram) : Resolver.IsOrderly (resolver host program) := by
  intro files checkout
  unfold resolver
  split
  · exact respectsOrder_blame checkout (.error _)
  · split
    · exact respectsOrder_blame checkout (.error _)
    · exact respectsOrder_blame checkout (program.answer _)

/-- The generator that runs a program is orderly, whatever the program does. -/
theorem Generator.Command.isOrderly_generator (host : Program.Host)
    (command : Command) : Generator.IsOrderly (command.generator host) := by
  have blamed (result : Except Fault Quote) :
      RespectsOrder (command.blame result) := by
    intro error failed
    cases result with
    | ok quote => cases failed
    | error fault =>
        cases failed
        rfl
  intro files reportData
  change RespectsOrder (command.generate host files reportData).1
  unfold generate
  split
  · exact blamed (.error _)
  · split
    · exact blamed (.error _)
    · exact blamed (command.collect _ _)

namespace Findings

/-- Each task finds out nothing about the order, if the resolver does not. -/
theorem IsOrderly.find {findings : Findings} {resolver : Resolver}
    (isOrderly : findings.IsOrderly) (orderly : resolver.IsOrderly)
    (paths : InputPaths) (files : FileSystem) (input : Input) :
    (find paths resolver (findings, files) input).1.IsOrderly := by
  cases input with
  | toolchain =>
      exact { isOrderly with toolchain := respectsOrder_hashFile _ _ _ }
  | proof => exact { isOrderly with proof := respectsOrder_hashFile _ _ _ }
  | revision => exact { isOrderly with revision := orderly files paths.sdk }

/-- Tasks find out nothing about the order, in whatever order they are carried
out. -/
theorem IsOrderly.foldl_find {findings : Findings} {resolver : Resolver}
    (isOrderly : findings.IsOrderly) (orderly : resolver.IsOrderly)
    (paths : InputPaths) (files : FileSystem) (order : List Input) :
    (order.foldl (Findings.find paths resolver)
      (findings, files)).1.IsOrderly := by
  induction order generalizing findings files with
  | nil => exact isOrderly
  | cons input order inductionHypothesis =>
      rw [List.foldl_cons]
      exact inductionHypothesis (isOrderly.find orderly paths files input) _

theorem isOrderly_search {resolver : Resolver}
    (orderly : resolver.IsOrderly) (mode : HashingMode) (schedule : Schedule)
    (paths : InputPaths) (files : FileSystem) :
    (search mode schedule paths resolver files).1.IsOrderly := by
  cases mode with
  | sequential =>
      exact ⟨respectsOrder_hashFile _ _ _, respectsOrder_hashFile _ _ _,
        orderly files paths.sdk⟩
  | concurrent =>
      have unknown : unknown.IsOrderly :=
        ⟨respectsOrder_error rfl, respectsOrder_error rfl,
          respectsOrder_error rfl⟩
      exact unknown.foldl_find orderly paths files schedule.order

/-- The first failure in binding order is what keeps a provenance from coming
out. -/
theorem firstError?_eq_some_iff (findings : Findings) (error : Error) :
    findings.firstError? = some error ↔ findings.outcome = .error error := by
  constructor
  · exact outcome_of_firstError?
  · intro failed
    obtain ⟨toolchain, proof, revision⟩ := findings
    cases toolchain with
    | error first =>
        cases failed
        rfl
    | ok toolchain =>
        cases proof with
        | error first =>
            cases failed
            rfl
        | ok proof =>
            cases revision with
            | error first =>
                cases failed
                rfl
            | ok revision => cases failed

theorem firstError?_eq_none {findings : Findings} {provenance : Provenance}
    (succeeded : findings.outcome = .ok provenance) :
    findings.firstError? = none := by
  cases isFirst : findings.firstError? with
  | none => rfl
  | some error =>
      rw [outcome_of_firstError? isFirst] at succeeded
      cases succeeded

/-- The first failure is not about the order if no failure is. -/
theorem IsOrderly.firstError? {findings : Findings} {error : Error}
    (isOrderly : findings.IsOrderly)
    (isFirst : findings.firstError? = some error) :
    error.isOutOfOrder = false := by
  have failed := outcome_of_firstError? isFirst
  obtain ⟨toolchain, proof, revision⟩ := findings
  cases toolchain with
  | error first =>
      cases failed
      exact isOrderly.toolchain error rfl
  | ok toolchain =>
      cases proof with
      | error first =>
          cases failed
          exact isOrderly.proof error rfl
      | ok proof =>
          cases revision with
          | error first =>
              cases failed
              exact isOrderly.revision error rfl
          | ok revision => cases failed

end Findings

/-! ## When operations are due -/

namespace Operation

/-- The resolver and the generator of an operation are orderly. -/
def IsOrderly : Operation → Prop
  | .reset => True
  | .resolve _ _ resolver => resolver.IsOrderly
  | .bind => True
  | .requestQuote generator => generator.IsOrderly
  | .prepare _ _ resolver => resolver.IsOrderly
  | .run _ _ resolver generator => resolver.IsOrderly ∧ generator.IsOrderly

/-- The stage that an operation has to find, and the one that it enters first.
Operations that begin the run again are due in every stage. -/
def transition? : Operation → Option (Stage × Stage)
  | .resolve _ _ _ => some (.unbuilt, .toolchainHashed)
  | .bind => some (.revisionResolved, .bound)
  | .requestQuote _ => some (.bound, .quoteRequested)
  | _ => none

/-- A stage is one that an operation is made for. -/
def IsDue (operation : Operation) (stage : Stage) : Prop :=
  ∀ transition ∈ operation.transition?, stage = transition.1

/-- The run that an operation goes on from. -/
def origin (operation : Operation) (pipeline : Pipeline) : Pipeline :=
  if operation.beginsAgain then pipeline.reset else pipeline

end Operation

/-! ## How operations end -/

/-- A step has ended the run that it went on from with an error: some stages may
have been passed, and then one failure has been entered. -/
structure Step.EndsRun {α : Type} (step : Step α) (origin : Pipeline)
    (error : Error) : Prop where
  result : step.result = .error error
  stage : step.pipeline.stage = .failed
  history : ∃ passed, .failed ∉ passed ∧
    step.pipeline.history = origin.history ++ passed ++ [.failed]

/-- A step ends the run because of an obstacle, or succeeds if there is
none. -/
def Step.Meets {α : Type} (step : Step α) (origin : Pipeline) :
    Option Error → Prop
  | some error => step.EndsRun origin error
  | none => ∃ value, step.result = .ok value

theorem Step.Meets.map {α β : Type} {step : Step α} {origin : Pipeline}
    {obstacle : Option Error} (meets : step.Meets origin obstacle)
    (f : α → β) : (step.map f).Meets origin obstacle := by
  cases obstacle with
  | none =>
      obtain ⟨value, succeeded⟩ := meets
      exact ⟨f value, congrArg (Except.map f) succeeded⟩
  | some error =>
      exact ⟨congrArg (Except.map f) meets.result, meets.stage,
        meets.history⟩

/-- What is wrong with the answer to a call. -/
def Call.error? (call : Call) : Option Error :=
  match call.answer with
  | .ok _ => none
  | .error error => some error

namespace Pipeline

/-- What keeps a turn from its end: the first input in binding order that it
does not find, or else the failure of the generator that it calls. -/
def obstacle? (pipeline : Pipeline) (turn : Turn) : Option Error :=
  ((pipeline.searches turn).findSome? Findings.firstError?).or
    ((pipeline.calls turn).findSome? Call.error?)

theorem failed_not_mem_stagesTo (before : Nat) :
    .failed ∉ stagesTo before := by
  intro isMember
  have isStage := List.mem_of_mem_take isMember
  exact absurd isStage (by decide)

/-- A run that fails after some stages has ended each run that had come only a
part of the way. -/
theorem endsRun_of_stagesTo {α : Type} {origin left : Pipeline}
    {begun reached : Nat} (further : begun ≤ reached)
    (began : origin.history = stagesTo begun) (isFailed : left.stage = .failed)
    (ended : left.history = stagesTo reached ++ [.failed]) (error : Error)
    (world : World) :
    (⟨.error error, left, world⟩ : Step α).EndsRun origin error := by
  have isPrefix : stagesTo begun <+: stagesTo reached :=
    List.take_prefix_take_left (by omega)
  obtain ⟨passed, splits⟩ := isPrefix
  refine ⟨rfl, isFailed, passed, ?_, ?_⟩
  · intro isMember
    apply failed_not_mem_stagesTo reached
    rw [← splits]
    exact List.mem_append_right _ isMember
  · rw [began, splits, ended]

/-- Where the answer of a generator leaves a run, told by what is wrong with
it. -/
theorem meets_answered {α : Type} {origin : Pipeline} {begun : Nat}
    (further : begun ≤ 5) (began : origin.history = stagesTo begun)
    (mode : HashingMode) (provenance : Provenance) (call : Call)
    (f : Quote → α) (world : World) :
    (⟨call.answer.map f, answered mode provenance call.answer, world⟩ :
      Step α).Meets origin call.error? := by
  unfold Call.error?
  cases answer : call.answer with
  | ok quote => exact ⟨f quote, rfl⟩
  | error error => exact endsRun_of_stagesTo further began rfl rfl error world

/-! ## Operations in stages that are not theirs -/

/-- Out of its stage an operation is refused, and leaves the run, the files and
the requests as they are. -/
theorem perform_of_not_due {operation : Operation}
    {transition : Stage × Stage} {pipeline : Pipeline}
    (isTransition : transition ∈ operation.transition?)
    (notDue : pipeline.stage ≠ transition.1) (world : World) :
    operation.perform pipeline world =
      ⟨.error (.invalidTransition pipeline.stage transition.2), pipeline,
        world⟩ := by
  cases operation with
  | resolve schedule paths resolver =>
      cases isTransition
      exact congrArg (Step.map Answer.provenance)
        (resolveProvenance_of_ne notDue schedule paths resolver world)
  | bind =>
      cases isTransition
      exact congrArg (Step.map Answer.reportData) (bind_of_ne notDue world)
  | requestQuote generator =>
      cases isTransition
      exact congrArg (Step.map Answer.quote)
        (requestQuote_of_ne notDue generator world)
  | reset => cases isTransition
  | prepare schedule paths resolver => cases isTransition
  | run schedule paths resolver generator => cases isTransition

/-! ## Operations in their stages -/

section

variable {pipeline : Pipeline} {files left : FileSystem} {schedule : Schedule}
  {paths : InputPaths} {resolver : Resolver} {generator : Generator}
  {findings : Findings}

/-- What keeps a turn that searches the inputs and makes no call from its end
is the first failure of the search. -/
theorem obstacle?_of_searches {turn : Turn}
    (searched : pipeline.searches turn = [findings])
    (noCall : pipeline.calls turn = []) :
    pipeline.obstacle? turn = findings.firstError? := by
  simp [obstacle?, searched, noCall]

theorem obstacle?_of_calls {turn : Turn} {call : Call}
    (found : ∀ findings ∈ pipeline.searches turn,
      findings.firstError? = none)
    (called : pipeline.calls turn = [call]) :
    pipeline.obstacle? turn = call.error? := by
  have allFound :
      (pipeline.searches turn).findSome? Findings.firstError? = none :=
    List.findSome?_eq_none_iff.mpr found
  simp [obstacle?, allFound, called]

/-- Resolving in a new run succeeds, or ends the run with the first failure of
the search. -/
theorem meets_resolveProvenance_new {mode : HashingMode}
    (requests : List ReportData)
    (searched : Findings.search mode schedule paths resolver files =
      (findings, left)) :
    ((new mode).resolveProvenance schedule paths resolver
      ⟨files, requests⟩).Meets (new mode) findings.firstError? := by
  cases outcome : findings.outcome with
  | error error =>
      rw [(findings.firstError?_eq_some_iff error).mpr outcome,
        resolveProvenance_of_error requests searched outcome]
      exact endsRun_of_stagesTo (Nat.zero_le _) rfl rfl rfl error _
  | ok provenance =>
      rw [Findings.firstError?_eq_none outcome,
        resolveProvenance_of_ok requests searched outcome]
      exact ⟨provenance, rfl⟩

/-- Asking for the quote in a run that is bound ends as the generator
answers. -/
theorem meets_requestQuote_boundTo (mode : HashingMode)
    (provenance : Provenance) (files : FileSystem)
    (requests : List ReportData) :
    (((boundTo mode provenance).requestQuote generator
      ⟨files, requests⟩).map Answer.quote).Meets (boundTo mode provenance)
      ((boundTo mode provenance).obstacle?
        ⟨files, .requestQuote generator⟩) := by
  have noSearch : ∀ findings ∈ (boundTo mode provenance).searches
      ⟨files, .requestQuote generator⟩, findings.firstError? = none := by
    intro findings isMember
    cases isMember
  have oneCall : (boundTo mode provenance).calls
      ⟨files, .requestQuote generator⟩ =
        [⟨generator, files, provenance.reportData⟩] := rfl
  rw [obstacle?_of_calls noSearch oneCall,
    requestQuote_boundTo mode requests rfl]
  exact meets_answered (by decide : 4 ≤ 5) rfl mode provenance
    ⟨generator, files, provenance.reportData⟩ Answer.quote _

theorem meets_prepare (requests : List ReportData)
    (searched : Findings.search pipeline.mode schedule paths resolver files =
      (findings, left)) :
    (pipeline.prepare schedule paths resolver ⟨files, requests⟩).Meets
      pipeline.reset findings.firstError? := by
  cases outcome : findings.outcome with
  | error error =>
      rw [(findings.firstError?_eq_some_iff error).mpr outcome,
        pipeline.prepare_of_error requests searched outcome]
      exact endsRun_of_stagesTo (Nat.zero_le _) rfl rfl rfl error _
  | ok provenance =>
      rw [Findings.firstError?_eq_none outcome,
        pipeline.prepare_of_ok requests searched outcome]
      exact ⟨_, rfl⟩

/-- A whole run ends with the first failure of the search, or else as its
generator answers. -/
theorem meets_run (requests : List ReportData)
    (searched : Findings.search pipeline.mode schedule paths resolver files =
      (findings, left)) :
    (pipeline.run schedule paths resolver generator ⟨files, requests⟩).Meets
      pipeline.reset
      (pipeline.obstacle?
        ⟨files, .run schedule paths resolver generator⟩) := by
  have oneSearch :
      pipeline.searches ⟨files, .run schedule paths resolver generator⟩ =
        [findings] := by
    simp only [searches, searched]
  cases outcome : findings.outcome with
  | error error =>
      rw [obstacle?_of_searches oneSearch
          (pipeline.calls_run_of_error searched outcome),
        (findings.firstError?_eq_some_iff error).mpr outcome,
        pipeline.run_of_error requests searched outcome]
      exact endsRun_of_stagesTo (Nat.zero_le _) rfl rfl rfl error _
  | ok provenance =>
      have found : ∀ findings ∈ pipeline.searches
          ⟨files, .run schedule paths resolver generator⟩,
          findings.firstError? = none := by
        intro other isMember
        rw [oneSearch, List.mem_singleton] at isMember
        rw [isMember, Findings.firstError?_eq_none outcome]
      rw [obstacle?_of_calls found
          (pipeline.calls_run_of_ok searched outcome),
        pipeline.run_of_ok requests searched outcome rfl]
      exact meets_answered (Nat.zero_le _) rfl pipeline.mode provenance
        ⟨generator, left, provenance.reportData⟩ _ _

/-- In its stage every operation succeeds unless an input is not found or the
generator fails, which ends the run. -/
theorem Landed.perform_of_due (landed : Landed pipeline) {turn : Turn}
    (isDue : turn.operation.IsDue pipeline.stage)
    (requests : List ReportData) :
    (turn.operation.perform pipeline ⟨turn.files, requests⟩).Meets
      (turn.operation.origin pipeline) (pipeline.obstacle? turn) := by
  obtain ⟨files, operation⟩ := turn
  cases operation with
  | reset => exact ⟨.nothing, rfl⟩
  | resolve schedule paths resolver =>
      have isUnbuilt : pipeline.stage = .unbuilt := isDue _ rfl
      have oneSearch :
          pipeline.searches ⟨files, .resolve schedule paths resolver⟩ =
            [(Findings.search pipeline.mode schedule paths resolver
              files).1] := if_pos isUnbuilt
      have isNew := landed.eq_new isUnbuilt
      rw [obstacle?_of_searches oneSearch rfl]
      have meets := meets_resolveProvenance_new requests
        (Prod.eta (Findings.search pipeline.mode schedule paths resolver
          files)).symm
      rw [← isNew] at meets
      exact meets.map Answer.provenance
  | bind =>
      have isResolved : pipeline.stage = .revisionResolved := isDue _ rfl
      obtain ⟨provenance, equal⟩ := landed.eq_resolved isResolved
      rw [equal]
      exact ⟨.reportData provenance.reportData, rfl⟩
  | requestQuote generator =>
      have isBound : pipeline.stage = .bound := isDue _ rfl
      obtain ⟨provenance, equal⟩ := landed.eq_boundTo isBound
      rw [equal]
      exact meets_requestQuote_boundTo pipeline.mode provenance files requests
  | prepare schedule paths resolver =>
      have oneSearch :
          pipeline.searches ⟨files, .prepare schedule paths resolver⟩ =
            [(Findings.search pipeline.mode schedule paths resolver
              files).1] := rfl
      rw [obstacle?_of_searches oneSearch rfl]
      exact (meets_prepare requests (Prod.eta _).symm).map Answer.bound
  | run schedule paths resolver generator =>
      exact (meets_run requests (Prod.eta _).symm).map Answer.attestation

end

/-! ## What operations are refused for -/

section

variable {pipeline : Pipeline} {turn : Turn}

theorem isOrderly_of_mem_searches {findings : Findings}
    (orderly : turn.operation.IsOrderly)
    (searched : findings ∈ pipeline.searches turn) : findings.IsOrderly := by
  obtain ⟨files, operation⟩ := turn
  cases operation with
  | reset => cases searched
  | bind => cases searched
  | requestQuote generator => cases searched
  | resolve schedule paths resolver =>
      simp only [searches] at searched
      split at searched
      · rw [List.mem_singleton.mp searched]
        exact Findings.isOrderly_search orderly _ _ _ _
      · cases searched
  | prepare schedule paths resolver =>
      rw [List.mem_singleton.mp searched]
      exact Findings.isOrderly_search orderly _ _ _ _
  | run schedule paths resolver generator =>
      rw [List.mem_singleton.mp searched]
      exact Findings.isOrderly_search orderly.1 _ _ _ _

theorem generator_of_mem_callsFor {generator : Generator} {call : Call}
    {files : FileSystem} (called : call ∈ pipeline.callsFor generator files) :
    call.generator = generator := by
  unfold callsFor at called
  split at called
  · rw [List.mem_singleton.mp called]
  · cases called

theorem respectsOrder_of_mem_calls {call : Call}
    (orderly : turn.operation.IsOrderly)
    (called : call ∈ pipeline.calls turn) : RespectsOrder call.answer := by
  have answers {generator : Generator} (isOrderly : generator.IsOrderly)
      (isGenerator : call.generator = generator) :
      RespectsOrder call.answer := by
    unfold Call.answer
    rw [isGenerator]
    exact isOrderly call.files call.reportData
  obtain ⟨files, operation⟩ := turn
  cases operation with
  | reset => cases called
  | bind => cases called
  | resolve schedule paths resolver => cases called
  | prepare schedule paths resolver => cases called
  | requestQuote generator =>
      exact answers orderly (generator_of_mem_callsFor called)
  | run schedule paths resolver generator =>
      simp only [calls] at called
      split at called
      · exact answers orderly.2 (generator_of_mem_callsFor called)
      · cases called

/-- What keeps an orderly turn from its end is not about the order. -/
theorem isOutOfOrder_of_obstacle? {error : Error}
    (orderly : turn.operation.IsOrderly)
    (isObstacle : pipeline.obstacle? turn = some error) :
    error.isOutOfOrder = false := by
  rcases Option.or_eq_some_iff.mp isObstacle with
    inSearch | ⟨-, inCall⟩
  · obtain ⟨findings, searched, isFirst⟩ :=
      List.exists_of_findSome?_eq_some inSearch
    exact (isOrderly_of_mem_searches orderly searched).firstError? isFirst
  · obtain ⟨call, called, isError⟩ := List.exists_of_findSome?_eq_some inCall
    have respects := respectsOrder_of_mem_calls orderly called
    unfold Call.error? at isError
    split at isError
    · cases isError
    · next answer =>
        cases isError
        exact respects error answer

/-- In its stage an orderly operation is not refused as out of order. -/
theorem Landed.result_ne_invalidTransition (landed : Landed pipeline)
    (turn : Turn) (orderly : turn.operation.IsOrderly)
    (isDue : turn.operation.IsDue pipeline.stage)
    (requests : List ReportData) (source target : Stage) :
    (turn.operation.perform pipeline ⟨turn.files, requests⟩).result ≠
      .error (.invalidTransition source target) := by
  intro refused
  have meets := landed.perform_of_due isDue requests
  cases isObstacle : pipeline.obstacle? turn with
  | none =>
      rw [isObstacle] at meets
      obtain ⟨answer, succeeded⟩ := meets
      rw [refused] at succeeded
      cases succeeded
  | some error =>
      rw [isObstacle] at meets
      have isRefusal := meets.result.symm.trans refused
      injection isRefusal with isRefusal
      have isOther := isOutOfOrder_of_obstacle? orderly isObstacle
      rw [isRefusal] at isOther
      cases isOther

/-- Out of its stage an operation looks for no input and calls no generator. -/
theorem idle_of_not_due {transition : Stage × Stage}
    (isTransition : transition ∈ turn.operation.transition?)
    (notDue : pipeline.stage ≠ transition.1) :
    pipeline.searches turn = [] ∧ pipeline.calls turn = [] := by
  obtain ⟨files, operation⟩ := turn
  cases operation with
  | resolve schedule paths resolver =>
      cases isTransition
      exact ⟨if_neg notDue, rfl⟩
  | bind => exact ⟨rfl, rfl⟩
  | requestQuote generator =>
      cases isTransition
      exact ⟨rfl, callsFor_of_ne notDue generator files⟩
  | reset => cases isTransition
  | prepare schedule paths resolver => cases isTransition
  | run schedule paths resolver generator => cases isTransition

end

/-- A run refuses operations exactly if they are out of order. -/
structure GuardsOrder (pipeline : Pipeline) : Prop where
  /-- An operation out of its stage is refused with the stage of the run and the
  one that it would enter, and leaves the run, the files and the requests as
  they are. -/
  refuses : ∀ operation : Operation, ∀ transition ∈ operation.transition?,
    pipeline.stage ≠ transition.1 → ∀ world : World,
      operation.perform pipeline world =
        ⟨.error (.invalidTransition pipeline.stage transition.2), pipeline,
          world⟩
  /-- It has looked for no input and has called no generator by then. -/
  idles : ∀ turn : Turn, ∀ transition ∈ turn.operation.transition?,
    pipeline.stage ≠ transition.1 →
      pipeline.searches turn = [] ∧ pipeline.calls turn = []
  /-- In its stage no operation is refused. -/
  admits : ∀ (operation : Operation) (world : World) (source target : Stage),
    operation.IsOrderly → operation.IsDue pipeline.stage →
      (operation.perform pipeline world).result ≠
        .error (.invalidTransition source target)
  /-- An operation that begins the run again is refused in no stage. -/
  admitsAnew : ∀ (operation : Operation) (world : World)
      (source target : Stage),
    operation.IsOrderly → operation.beginsAgain = true →
      (operation.perform pipeline world).result ≠
        .error (.invalidTransition source target)
  /-- Binding succeeds in its stage. -/
  binds : pipeline.stage = .revisionResolved →
    ∃ provenance, pipeline.provenance = some provenance ∧
      ∀ world, (pipeline.bind world).result = .ok provenance.reportData
  /-- In its stage every operation succeeds unless an input is not found or the
  generator fails; then it fails with that error, and ends the run. -/
  meets : ∀ turn : Turn, turn.operation.IsDue pipeline.stage →
    ∀ requests,
      (turn.operation.perform pipeline ⟨turn.files, requests⟩).Meets
        (turn.operation.origin pipeline) (pipeline.obstacle? turn)

/-- Operations that begin the run again are due in every stage. -/
theorem isDue_of_beginsAgain {operation : Operation}
    (beginsAgain : operation.beginsAgain = true) (stage : Stage) :
    operation.IsDue stage := by
  intro transition isTransition
  cases operation with
  | resolve schedule paths resolver => cases beginsAgain
  | bind => cases beginsAgain
  | requestQuote generator => cases beginsAgain
  | reset => cases isTransition
  | prepare schedule paths resolver => cases isTransition
  | run schedule paths resolver generator => cases isTransition

/-- Whatever has been done with a new run, operations are refused exactly if
they are out of order, and then change nothing. -/
theorem guardsOrder_afterTurns (mode : HashingMode) (turns : List Turn) :
    GuardsOrder ((new mode).afterTurns turns) := by
  have landed : Landed ((new mode).afterTurns turns) :=
    (Landed.new mode).afterTurns turns
  constructor
  case refuses =>
    intro operation transition isTransition notDue world
    exact perform_of_not_due isTransition notDue world
  case idles =>
    intro turn transition isTransition notDue
    exact idle_of_not_due isTransition notDue
  case admits =>
    intro operation world source target orderly isDue
    exact landed.result_ne_invalidTransition ⟨world.files, operation⟩ orderly
      isDue world.requests source target
  case admitsAnew =>
    intro operation world source target orderly beginsAgain
    have isDue := isDue_of_beginsAgain beginsAgain
      ((new mode).afterTurns turns).stage
    exact landed.result_ne_invalidTransition ⟨world.files, operation⟩ orderly
      isDue world.requests source target
  case binds =>
    intro isResolved
    obtain ⟨provenance, equal⟩ := landed.eq_resolved isResolved
    rw [equal]
    exact ⟨provenance, rfl, fun world => rfl⟩
  case meets =>
    intro turn isDue requests
    exact landed.perform_of_due isDue requests

/-- Preparing a run where there are no files, with a resolver that reads
metadata. -/
def vainPreparation : Operation :=
  .prepare .binding ⟨"tool", "proof", "sdk"⟩ Checkout.metadataResolver

/-- A run that was prepared in vain. -/
def spent : Pipeline :=
  (new .sequential).afterTurns [⟨.empty, vainPreparation⟩]

/-- A run that was prepared in vain has failed for want of the toolchain.  It
refuses to be bound, and does not refuse to be prepared again. -/
theorem guardsOrder_spent :
    ((new .sequential).step ⟨.empty, vainPreparation⟩).result =
        .error (.inputNotFound .toolchain "tool") ∧
      spent.stage = .failed ∧
      Operation.bind.perform spent ⟨.empty, []⟩ =
        ⟨.error (.invalidTransition .failed .bound), spent, ⟨.empty, []⟩⟩ ∧
      ∀ source target,
        (vainPreparation.perform spent ⟨.empty, []⟩).result ≠
          .error (.invalidTransition source target) := by
  have guards := guardsOrder_afterTurns .sequential
    [⟨.empty, vainPreparation⟩]
  have isFailed : spent.stage = .failed := rfl
  refine ⟨rfl, isFailed, ?_, ?_⟩
  · have notDue : spent.stage ≠ .revisionResolved := by
      rw [isFailed]
      decide
    have refused := guards.refuses .bind _ rfl notDue ⟨.empty, []⟩
    rwa [← spent, isFailed] at refused
  · intro source target
    exact guards.admitsAnew vainPreparation ⟨.empty, []⟩ source target
      Checkout.isOrderly_metadataResolver rfl

end Pipeline
end ReportBinding
