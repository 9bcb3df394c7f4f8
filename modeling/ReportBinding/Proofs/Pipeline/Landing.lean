import ReportBinding.Pipeline.Operation
import ReportBinding.Proofs.Pipeline.Findings

/-!
# Where operations leave a run

Between operations a run is in one of six kinds of states, each of which is
known from the mode, the number of inputs found and the provenance.  `Landed`
names them, the equations say what every operation does in them, and
`Landed.perform` and `Landed.afterTurns` put these together: operations lead
from such states to such states only.
-/

namespace ReportBinding

theorem Stage.ne_of_isTerminal {ended other : Stage}
    (isTerminal : ended.isTerminal = true)
    (goesOn : other.isTerminal = false) : ended ≠ other := by
  rintro rfl
  rw [isTerminal] at goesOn
  cases goesOn

namespace Pipeline

/-- The stages that a run passes when all goes well, up to the one that has the
given number of stages before it. -/
def stagesTo (before : Nat) : List Stage :=
  [.unbuilt, .toolchainHashed, .proofHashed, .revisionResolved, .bound,
    .quoteRequested, .done].take (before + 1)

/-- A run that failed when only the given number of inputs was found. -/
def unresolved (mode : HashingMode) (found : Nat) : Pipeline :=
  ⟨mode, .failed, stagesTo found ++ [.failed], none, none⟩

/-- A run that has found out its provenance. -/
def resolved (mode : HashingMode) (provenance : Provenance) : Pipeline :=
  ⟨mode, .revisionResolved, stagesTo 3, some provenance, none⟩

/-- A run that has bound its provenance. -/
def boundTo (mode : HashingMode) (provenance : Provenance) : Pipeline :=
  ⟨mode, .bound, stagesTo 4, some provenance, some provenance.reportData⟩

/-- A run that has its quote. -/
def completed (mode : HashingMode) (provenance : Provenance) : Pipeline :=
  ⟨mode, .done, stagesTo 6, some provenance, some provenance.reportData⟩

/-- A run that was refused its quote. -/
def refused (mode : HashingMode) (provenance : Provenance) : Pipeline :=
  ⟨mode, .failed, stagesTo 5 ++ [.failed], some provenance,
    some provenance.reportData⟩

/-- Where the answer of a generator leaves a run that was bound. -/
def answered (mode : HashingMode) (provenance : Provenance) :
    Except Error Quote → Pipeline
  | .ok _ => completed mode provenance
  | .error _ => refused mode provenance

theorem isTerminal_answered (mode : HashingMode) (provenance : Provenance)
    (answer : Except Error Quote) :
    (answered mode provenance answer).stage.isTerminal = true := by
  cases answer <;> rfl

/-- The states that operations leave runs in. -/
inductive Landed : Pipeline → Prop where
  | new (mode : HashingMode) : Landed (new mode)
  | unresolved (mode : HashingMode) (found : Nat) (fewer : found < 3) :
      Landed (unresolved mode found)
  | resolved (mode : HashingMode) (provenance : Provenance) :
      Landed (resolved mode provenance)
  | boundTo (mode : HashingMode) (provenance : Provenance) :
      Landed (boundTo mode provenance)
  | completed (mode : HashingMode) (provenance : Provenance) :
      Landed (completed mode provenance)
  | refused (mode : HashingMode) (provenance : Provenance) :
      Landed (refused mode provenance)

theorem Landed.answered (mode : HashingMode) (provenance : Provenance)
    (answer : Except Error Quote) :
    Landed (answered mode provenance answer) := by
  cases answer with
  | ok quote => exact .completed mode provenance
  | error error => exact .refused mode provenance

/-- A run that has not begun has no state but that of new runs. -/
theorem Landed.eq_new {pipeline : Pipeline} (landed : Landed pipeline)
    (isUnbuilt : pipeline.stage = .unbuilt) :
    pipeline = Pipeline.new pipeline.mode := by
  cases landed with
  | new mode => rfl
  | unresolved mode found fewer => cases isUnbuilt
  | resolved mode provenance => cases isUnbuilt
  | boundTo mode provenance => cases isUnbuilt
  | completed mode provenance => cases isUnbuilt
  | refused mode provenance => cases isUnbuilt

theorem Landed.eq_resolved {pipeline : Pipeline} (landed : Landed pipeline)
    (isResolved : pipeline.stage = .revisionResolved) :
    ∃ provenance, pipeline = Pipeline.resolved pipeline.mode provenance := by
  cases landed with
  | new mode => cases isResolved
  | unresolved mode found fewer => cases isResolved
  | resolved mode provenance => exact ⟨provenance, rfl⟩
  | boundTo mode provenance => cases isResolved
  | completed mode provenance => cases isResolved
  | refused mode provenance => cases isResolved

theorem Landed.eq_boundTo {pipeline : Pipeline} (landed : Landed pipeline)
    (isBound : pipeline.stage = .bound) :
    ∃ provenance, pipeline = Pipeline.boundTo pipeline.mode provenance := by
  cases landed with
  | new mode => cases isBound
  | unresolved mode found fewer => cases isBound
  | resolved mode provenance => cases isBound
  | boundTo mode provenance => exact ⟨provenance, rfl⟩
  | completed mode provenance => cases isBound
  | refused mode provenance => cases isBound

/-! ## Resolving the inputs -/

/-- Findings are put down up to the first failure. -/
theorem recordFindings_of_error {findings : Findings} {error : Error}
    (mode : HashingMode) (failed : findings.outcome = .error error) :
    (new mode).recordFindings findings =
      (.error error, unresolved mode findings.found) := by
  obtain ⟨toolchain, proof, revision⟩ := findings
  cases toolchain with
  | error first =>
      cases failed
      rfl
  | ok toolchain =>
      cases proof with
      | error first =>
          cases failed
          rfl
      | ok proof =>
          cases revision with
          | error first =>
              cases failed
              rfl
          | ok revision => cases failed

theorem recordFindings_of_ok {findings : Findings} {provenance : Provenance}
    (mode : HashingMode) (succeeded : findings.outcome = .ok provenance) :
    (new mode).recordFindings findings =
      (.ok provenance,
        ⟨mode, .revisionResolved, stagesTo 3, none, none⟩) := by
  obtain ⟨toolchain, proof, revision⟩ := findings
  cases toolchain with
  | error first => cases succeeded
  | ok toolchain =>
      cases proof with
      | error first => cases succeeded
      | ok proof =>
          cases revision with
          | error first => cases succeeded
          | ok revision =>
              cases succeeded
              rfl

/-- Resolving the inputs one after the other puts down what a search finds. -/
theorem resolveSequentially_of_search {findings : Findings}
    {left files : FileSystem} {schedule : Schedule} {paths : InputPaths}
    {resolver : Resolver} (mode : HashingMode)
    (searched : Findings.search .sequential schedule paths resolver files =
      (findings, left)) :
    (new mode).resolveSequentially paths resolver files =
      (((new mode).recordFindings findings).1,
        ((new mode).recordFindings findings).2, left) := by
  unfold Findings.search at searched
  unfold resolveSequentially
  generalize files.hashFile .toolchain paths.toolchain = toolchain at *
  generalize files.hashFile .proof paths.proof = proof at *
  generalize resolver files paths.sdk = found at *
  obtain ⟨revision, changed⟩ := found
  cases searched
  cases toolchain with
  | error error => rfl
  | ok toolchain =>
      cases proof with
      | error error => rfl
      | ok proof => cases revision <;> rfl

/-- Resolving in a run that has not begun puts down what a search finds. -/
theorem resolveProvenance_new {mode : HashingMode} {schedule : Schedule}
    {paths : InputPaths} {resolver : Resolver} {files left : FileSystem}
    {findings : Findings} (requests : List ReportData)
    (searched : Findings.search mode schedule paths resolver files =
      (findings, left)) :
    (new mode).resolveProvenance schedule paths resolver ⟨files, requests⟩ =
      match (new mode).recordFindings findings with
      | (.ok provenance, pipeline) =>
          ⟨.ok provenance, { pipeline with provenance := some provenance },
            ⟨left, requests⟩⟩
      | (.error error, pipeline) =>
          ⟨.error error, pipeline, ⟨left, requests⟩⟩ := by
  cases mode with
  | sequential =>
      have resolvedInOrder :=
        resolveSequentially_of_search .sequential searched
      unfold resolveProvenance
      simp only [new, ne_eq, not_true_eq_false, if_false]
      simp only [new] at resolvedInOrder
      rw [resolvedInOrder]
      generalize recordFindings _ findings = recorded
      obtain ⟨result, pipeline⟩ := recorded
      cases result <;> rfl
  | concurrent =>
      have gathered : Findings.gather schedule paths resolver files =
          (findings, left) := searched
      unfold resolveProvenance resolveConcurrently
      simp only [new, ne_eq, not_true_eq_false, if_false, gathered]
      generalize recordFindings _ findings = recorded
      obtain ⟨result, pipeline⟩ := recorded
      cases result <;> rfl

/-- Resolving fails with the first failure of the search. -/
theorem resolveProvenance_of_error {mode : HashingMode} {schedule : Schedule}
    {paths : InputPaths} {resolver : Resolver} {files left : FileSystem}
    {findings : Findings} {error : Error} (requests : List ReportData)
    (searched : Findings.search mode schedule paths resolver files =
      (findings, left))
    (failed : findings.outcome = .error error) :
    (new mode).resolveProvenance schedule paths resolver ⟨files, requests⟩ =
      ⟨.error error, unresolved mode findings.found, ⟨left, requests⟩⟩ := by
  rw [resolveProvenance_new requests searched,
    recordFindings_of_error mode failed]

theorem resolveProvenance_of_ok {mode : HashingMode} {schedule : Schedule}
    {paths : InputPaths} {resolver : Resolver} {files left : FileSystem}
    {findings : Findings} {provenance : Provenance}
    (requests : List ReportData)
    (searched : Findings.search mode schedule paths resolver files =
      (findings, left))
    (succeeded : findings.outcome = .ok provenance) :
    (new mode).resolveProvenance schedule paths resolver ⟨files, requests⟩ =
      ⟨.ok provenance, resolved mode provenance, ⟨left, requests⟩⟩ := by
  rw [resolveProvenance_new requests searched,
    recordFindings_of_ok mode succeeded]
  rfl

/-- Resolving is refused in a run that has begun, and changes nothing. -/
theorem resolveProvenance_of_ne {pipeline : Pipeline}
    (hasBegun : pipeline.stage ≠ .unbuilt) (schedule : Schedule)
    (paths : InputPaths) (resolver : Resolver) (world : World) :
    pipeline.resolveProvenance schedule paths resolver world =
      ⟨.error (.invalidTransition pipeline.stage .toolchainHashed), pipeline,
        world⟩ := by
  rw [resolveProvenance, if_pos hasBegun]

/-! ## Binding and asking for the quote -/

theorem bind_resolved (mode : HashingMode) (provenance : Provenance)
    (world : World) :
    (resolved mode provenance).bind world =
      ⟨.ok provenance.reportData, boundTo mode provenance, world⟩ := rfl

theorem bind_of_ne {pipeline : Pipeline}
    (notResolved : pipeline.stage ≠ .revisionResolved) (world : World) :
    pipeline.bind world =
      ⟨.error (.invalidTransition pipeline.stage .bound), pipeline,
        world⟩ := by
  unfold bind
  split
  · next isResolved _ => exact absurd isResolved notResolved
  · rfl

/-- Asking for the quote in a run that is bound: one request, over the report
data of the provenance, and the answer as the result. -/
theorem requestQuote_boundTo {generator : Generator}
    {files left : FileSystem} {provenance : Provenance}
    {answer : Except Error Quote} (mode : HashingMode)
    (requests : List ReportData)
    (asked : generator.generate files provenance.reportData =
      (answer, left)) :
    (boundTo mode provenance).requestQuote generator ⟨files, requests⟩ =
      ⟨answer, answered mode provenance answer,
        ⟨left, requests ++ [provenance.reportData]⟩⟩ := by
  unfold requestQuote
  simp only [boundTo, advance, Stage.next?, if_true, asked]
  cases answer <;> rfl

theorem requestQuote_of_ne {pipeline : Pipeline}
    (notBound : pipeline.stage ≠ .bound) (generator : Generator)
    (world : World) :
    pipeline.requestQuote generator world =
      ⟨.error (.invalidTransition pipeline.stage .quoteRequested), pipeline,
        world⟩ := by
  unfold requestQuote
  split
  · next isBound _ => exact absurd isBound notBound
  · rfl

/-! ## Whole runs -/

section

variable {schedule : Schedule} {paths : InputPaths} {resolver : Resolver}
  {generator : Generator} {files left : FileSystem} {findings : Findings}

/-- Preparing fails with the first failure of the search, in whatever state it
begins. -/
theorem prepare_of_error {error : Error} (pipeline : Pipeline)
    (requests : List ReportData)
    (searched : Findings.search pipeline.mode schedule paths resolver files =
      (findings, left))
    (failed : findings.outcome = .error error) :
    pipeline.prepare schedule paths resolver ⟨files, requests⟩ =
      ⟨.error error, unresolved pipeline.mode findings.found,
        ⟨left, requests⟩⟩ := by
  rw [prepare, reset, resolveProvenance_of_error requests searched failed]

/-- Preparing binds the provenance that the search finds, in whatever state it
begins. -/
theorem prepare_of_ok {provenance : Provenance} (pipeline : Pipeline)
    (requests : List ReportData)
    (searched : Findings.search pipeline.mode schedule paths resolver files =
      (findings, left))
    (succeeded : findings.outcome = .ok provenance) :
    pipeline.prepare schedule paths resolver ⟨files, requests⟩ =
      ⟨.ok ⟨provenance, provenance.reportData⟩,
        boundTo pipeline.mode provenance, ⟨left, requests⟩⟩ := by
  rw [prepare, reset, resolveProvenance_of_ok requests searched succeeded]
  simp only [bind_resolved]

/-- A whole run fails with the first failure of the search, before it asks for
a quote. -/
theorem run_of_error {error : Error} (pipeline : Pipeline)
    (requests : List ReportData)
    (searched : Findings.search pipeline.mode schedule paths resolver files =
      (findings, left))
    (failed : findings.outcome = .error error) :
    pipeline.run schedule paths resolver generator ⟨files, requests⟩ =
      ⟨.error error, unresolved pipeline.mode findings.found,
        ⟨left, requests⟩⟩ := by
  rw [run, pipeline.prepare_of_error requests searched failed]

/-- A whole run takes what the search finds to the generator, once. -/
theorem run_of_ok {provenance : Provenance} {answer : Except Error Quote}
    {changed : FileSystem} (pipeline : Pipeline) (requests : List ReportData)
    (searched : Findings.search pipeline.mode schedule paths resolver files =
      (findings, left))
    (succeeded : findings.outcome = .ok provenance)
    (asked : generator.generate left provenance.reportData =
      (answer, changed)) :
    pipeline.run schedule paths resolver generator ⟨files, requests⟩ =
      ⟨answer.map fun quote => ⟨provenance, provenance.reportData, quote⟩,
        answered pipeline.mode provenance answer,
        ⟨changed, requests ++ [provenance.reportData]⟩⟩ := by
  have requested := requestQuote_boundTo pipeline.mode requests asked
  rw [run, pipeline.prepare_of_ok requests searched succeeded]
  simp only [requested]
  cases answer <;> rfl

end

/-! ## All operations -/

variable {pipeline : Pipeline}

/-- Resolving leads from the states named to such states. -/
theorem Landed.resolveProvenance (landed : Landed pipeline)
    (schedule : Schedule) (paths : InputPaths) (resolver : Resolver)
    (world : World) :
    Landed (pipeline.resolveProvenance schedule paths resolver
      world).pipeline := by
  by_cases isUnbuilt : pipeline.stage = .unbuilt
  · rw [landed.eq_new isUnbuilt]
    rcases searched : Findings.search pipeline.mode schedule paths resolver
      world.files with ⟨findings, left⟩
    cases outcome : findings.outcome with
    | error error =>
        rw [resolveProvenance_of_error world.requests searched outcome]
        exact .unresolved _ _ (Findings.found_lt_of_outcome outcome)
    | ok provenance =>
        rw [resolveProvenance_of_ok world.requests searched outcome]
        exact .resolved _ provenance
  · rw [resolveProvenance_of_ne isUnbuilt]
    exact landed

theorem Landed.bind (landed : Landed pipeline) (world : World) :
    Landed (pipeline.bind world).pipeline := by
  by_cases isResolved : pipeline.stage = .revisionResolved
  · obtain ⟨provenance, equal⟩ := landed.eq_resolved isResolved
    rw [equal, bind_resolved]
    exact .boundTo _ provenance
  · rw [bind_of_ne isResolved]
    exact landed

theorem Landed.requestQuote (landed : Landed pipeline)
    (generator : Generator) (world : World) :
    Landed (pipeline.requestQuote generator world).pipeline := by
  by_cases isBound : pipeline.stage = .bound
  · obtain ⟨provenance, equal⟩ := landed.eq_boundTo isBound
    rw [equal, requestQuote_boundTo _ world.requests rfl]
    exact .answered _ provenance _
  · rw [requestQuote_of_ne isBound]
    exact landed

/-- Preparing leads to the states named from anywhere. -/
theorem Landed.prepare (pipeline : Pipeline) (schedule : Schedule)
    (paths : InputPaths) (resolver : Resolver) (world : World) :
    Landed (pipeline.prepare schedule paths resolver world).pipeline := by
  rcases searched : Findings.search pipeline.mode schedule paths resolver
    world.files with ⟨findings, left⟩
  cases outcome : findings.outcome with
  | error error =>
      rw [pipeline.prepare_of_error world.requests searched outcome]
      exact .unresolved _ _ (Findings.found_lt_of_outcome outcome)
  | ok provenance =>
      rw [pipeline.prepare_of_ok world.requests searched outcome]
      exact .boundTo _ provenance

theorem Landed.run (pipeline : Pipeline) (schedule : Schedule)
    (paths : InputPaths) (resolver : Resolver) (generator : Generator)
    (world : World) :
    Landed (pipeline.run schedule paths resolver generator
      world).pipeline := by
  rcases searched : Findings.search pipeline.mode schedule paths resolver
    world.files with ⟨findings, left⟩
  cases outcome : findings.outcome with
  | error error =>
      rw [pipeline.run_of_error world.requests searched outcome]
      exact .unresolved _ _ (Findings.found_lt_of_outcome outcome)
  | ok provenance =>
      rw [pipeline.run_of_ok world.requests searched outcome rfl]
      exact .answered _ provenance _

/-- Every operation leads from the states named to such states. -/
theorem Landed.perform (landed : Landed pipeline) (operation : Operation)
    (world : World) :
    Landed (operation.perform pipeline world).pipeline := by
  cases operation with
  | reset => exact .new pipeline.mode
  | resolve schedule paths resolver =>
      exact landed.resolveProvenance schedule paths resolver world
  | bind => exact landed.bind world
  | requestQuote generator => exact landed.requestQuote generator world
  | prepare schedule paths resolver =>
      exact .prepare pipeline schedule paths resolver world
  | run schedule paths resolver generator =>
      exact .run pipeline schedule paths resolver generator world

end Pipeline

/-! ## Sequences of operations -/

/-- An operation, and the files that it comes upon. -/
structure Turn where
  files : FileSystem
  operation : Operation

namespace Pipeline

/-- What a turn does with a run. -/
def step (pipeline : Pipeline) (turn : Turn) : Step Answer :=
  turn.operation.perform pipeline ⟨turn.files, []⟩

/-- The run after a sequence of turns. -/
def afterTurns (pipeline : Pipeline) : List Turn → Pipeline
  | [] => pipeline
  | turn :: turns => (pipeline.step turn).pipeline.afterTurns turns

theorem Landed.afterTurns {pipeline : Pipeline} (landed : Landed pipeline)
    (turns : List Turn) : Landed (pipeline.afterTurns turns) := by
  induction turns generalizing pipeline with
  | nil => exact landed
  | cons turn turns inductionHypothesis =>
      exact inductionHypothesis (landed.perform turn.operation _)

end Pipeline
end ReportBinding
