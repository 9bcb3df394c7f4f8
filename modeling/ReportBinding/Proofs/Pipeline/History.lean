import Mathlib.Data.List.Chain
import ReportBinding.Proofs.Pipeline.Landing

/-!
# Histories of runs

The history of a run, its stage and its values belong together, whatever
operations have been tried on it: the history leads to the stage by lawful
steps, and tells which values are there.
-/

namespace ReportBinding

namespace Stage

/-- A stage may be entered from another one: as the next one, or as the
failure of a run that has not ended. -/
def Follows (earlier later : Stage) : Prop :=
  earlier.next? = some later ∨
    later = .failed ∧ earlier.isTerminal = false

instance (earlier later : Stage) : Decidable (Follows earlier later) :=
  inferInstanceAs (Decidable (_ ∨ _))

/-- A history leads lawfully from the beginning of a run to a stage that runs
may rest in. -/
structure Leads (history : List Stage) (stage : Stage) : Prop where
  /-- The history begins with a run that has not begun. -/
  begins : history.head? = some .unbuilt
  /-- The history ends with the stage. -/
  ends : history.getLast? = some stage
  /-- Every stage is entered lawfully. -/
  lawful : history.IsChain Follows
  /-- Each end of the run is entered once at the most. -/
  endsOnce : history.count .failed ≤ 1 ∧ history.count .done ≤ 1
  /-- An end of the run comes last. -/
  endsLast : ∀ earlier ∈ history.dropLast, earlier.isTerminal = false
  /-- The stages that are passed within operations are not rested in. -/
  rests :
    stage ∈ [Stage.unbuilt, .revisionResolved, .bound, .done, .failed]

instance (history : List Stage) (stage : Stage) :
    Decidable (Leads history stage) :=
  decidable_of_iff
    (history.head? = some .unbuilt ∧ history.getLast? = some stage ∧
      history.IsChain Follows ∧
        (history.count .failed ≤ 1 ∧ history.count .done ≤ 1) ∧
          (∀ earlier ∈ history.dropLast, earlier.isTerminal = false) ∧
            stage ∈ [Stage.unbuilt, .revisionResolved, .bound, .done, .failed])
    ⟨fun ⟨begins, ends, lawful, endsOnce, endsLast, rests⟩ =>
        ⟨begins, ends, lawful, endsOnce, endsLast, rests⟩,
      fun leads => ⟨leads.begins, leads.ends, leads.lawful, leads.endsOnce,
        leads.endsLast, leads.rests⟩⟩

end Stage

namespace Pipeline

/-- The history, the stage and the values of a run belong together. -/
structure Consistent (pipeline : Pipeline) : Prop where
  /-- The history leads to the stage. -/
  leads : Stage.Leads pipeline.history pipeline.stage
  /-- There is a provenance exactly if it has been resolved. -/
  hasProvenance :
    pipeline.provenance.isSome ↔ .revisionResolved ∈ pipeline.history
  /-- There is report data exactly if it has been bound. -/
  hasReportData : pipeline.reportData.isSome ↔ .bound ∈ pipeline.history
  /-- The report data is that of the provenance. -/
  binds : ∀ reportData, pipeline.reportData = some reportData →
    ∃ provenance, pipeline.provenance = some provenance ∧
      reportData = provenance.reportData

/-- The history of a run that failed to resolve an input leads to the failure
and passes neither of the stages that bring values. -/
theorem leads_unresolved {found : Nat} (fewer : found < 3) :
    Stage.Leads (stagesTo found ++ [.failed]) .failed ∧
      .revisionResolved ∉ stagesTo found ++ [.failed] ∧
        .bound ∉ stagesTo found ++ [.failed] := by
  have all : ∀ found : Fin 3,
      Stage.Leads (stagesTo found ++ [.failed]) .failed ∧
        .revisionResolved ∉ stagesTo found ++ [.failed] ∧
          .bound ∉ stagesTo found ++ [.failed] := by
    decide
  exact all ⟨found, fewer⟩

/-- A run without values, whose history passes neither of the stages that bring
them. -/
theorem Consistent.of_none {pipeline : Pipeline}
    (leads : Stage.Leads pipeline.history pipeline.stage)
    (noProvenance : pipeline.provenance = none)
    (noReportData : pipeline.reportData = none)
    (notResolved : .revisionResolved ∉ pipeline.history)
    (notBound : .bound ∉ pipeline.history) : Consistent pipeline where
  leads := leads
  hasProvenance := by simp [noProvenance, notResolved]
  hasReportData := by simp [noReportData, notBound]
  binds := by simp [noReportData]

/-- A run with a provenance bound to its report data, whose history passes both
stages that bring values. -/
theorem Consistent.of_bound {pipeline : Pipeline} {provenance : Provenance}
    (leads : Stage.Leads pipeline.history pipeline.stage)
    (isProvenance : pipeline.provenance = some provenance)
    (isReportData : pipeline.reportData = some provenance.reportData)
    (isResolved : .revisionResolved ∈ pipeline.history)
    (isBound : .bound ∈ pipeline.history) : Consistent pipeline where
  leads := leads
  hasProvenance := by simp [isProvenance, isResolved]
  hasReportData := by simp [isReportData, isBound]
  binds := by
    intro reportData isSame
    rw [isReportData] at isSame
    injection isSame with isSame
    exact ⟨provenance, isProvenance, isSame.symm⟩

/-- The states that operations leave runs in are consistent. -/
theorem Landed.consistent {pipeline : Pipeline} (landed : Landed pipeline) :
    Consistent pipeline := by
  cases landed with
  | new mode =>
      have leads : Stage.Leads [.unbuilt] .unbuilt := by decide
      exact .of_none leads rfl rfl
        (show _ ∉ [Stage.unbuilt] by decide)
        (show _ ∉ [Stage.unbuilt] by decide)
  | unresolved mode found fewer =>
      obtain ⟨leads, notResolved, notBound⟩ := leads_unresolved fewer
      exact .of_none leads rfl rfl notResolved notBound
  | resolved mode provenance =>
      have leads : Stage.Leads (stagesTo 3) .revisionResolved := by decide
      have isResolved : .revisionResolved ∈ stagesTo 3 := by decide
      have notBound : .bound ∉ stagesTo 3 := by decide
      exact
        { leads := leads
          hasProvenance := by simp [Pipeline.resolved, isResolved]
          hasReportData := by simp [Pipeline.resolved, notBound]
          binds := by simp [Pipeline.resolved] }
  | boundTo mode provenance =>
      have leads : Stage.Leads (stagesTo 4) .bound := by decide
      exact .of_bound leads rfl rfl
        (show _ ∈ stagesTo 4 by decide) (show _ ∈ stagesTo 4 by decide)
  | completed mode provenance =>
      have leads : Stage.Leads (stagesTo 6) .done := by decide
      exact .of_bound leads rfl rfl
        (show _ ∈ stagesTo 6 by decide) (show _ ∈ stagesTo 6 by decide)
  | refused mode provenance =>
      have leads : Stage.Leads (stagesTo 5 ++ [.failed]) .failed := by decide
      exact .of_bound leads rfl rfl
        (show _ ∈ stagesTo 5 ++ [.failed] by decide)
        (show _ ∈ stagesTo 5 ++ [.failed] by decide)

/-- A new run stays consistent through all operations, in whatever order they
are tried, with whatever inputs, resolvers and generators, on files that may
change in between. -/
theorem consistent_afterTurns (mode : HashingMode) (turns : List Turn) :
    Consistent ((new mode).afterTurns turns) := by
  have landed : Landed ((new mode).afterTurns turns) :=
    (Landed.new mode).afterTurns turns
  exact landed.consistent

end Pipeline
end ReportBinding
