import ReportBinding.Pipeline.Basic

/-!
# Operations on a pipeline

The operations that a pipeline offers as values, so that sequences of them can
be written down and performed.
-/

namespace ReportBinding

/-- An operation on a pipeline, with what it is given. -/
inductive Operation where
  | reset
  | resolve (schedule : Schedule) (paths : InputPaths) (resolver : Resolver)
  | bind
  | requestQuote (generator : Generator)
  | prepare (schedule : Schedule) (paths : InputPaths) (resolver : Resolver)
  | run (schedule : Schedule) (paths : InputPaths) (resolver : Resolver)
      (generator : Generator)

/-- What an operation answers when it succeeds. -/
inductive Answer where
  | nothing
  | provenance (provenance : Provenance)
  | reportData (reportData : ReportData)
  | quote (quote : Quote)
  | bound (bound : BoundProvenance)
  | attestation (attestation : Attestation)
deriving DecidableEq

/-- Replace the value that an operation answers. -/
def Step.map {α β : Type} (f : α → β) (step : Step α) : Step β :=
  ⟨step.result.map f, step.pipeline, step.world⟩

namespace Operation

/-- Perform an operation. -/
def perform (operation : Operation) (pipeline : Pipeline) (world : World) :
    Step Answer :=
  match operation with
  | .reset => ⟨.ok .nothing, pipeline.reset, world⟩
  | .resolve schedule paths resolver =>
      (pipeline.resolveProvenance schedule paths resolver world).map
        .provenance
  | .bind => (pipeline.bind world).map .reportData
  | .requestQuote generator =>
      (pipeline.requestQuote generator world).map .quote
  | .prepare schedule paths resolver =>
      (pipeline.prepare schedule paths resolver world).map .bound
  | .run schedule paths resolver generator =>
      (pipeline.run schedule paths resolver generator world).map .attestation

end Operation
end ReportBinding
