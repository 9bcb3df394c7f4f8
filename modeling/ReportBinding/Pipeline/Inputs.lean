import ReportBinding.Checkout.Resolver
import ReportBinding.Provenance.Hashing

/-!
# Resolving the inputs of a run

The toolchain and the proof are hashed and the revision is resolved.  The three
tasks are independent of each other, and may be carried out in any order.
-/

namespace ReportBinding

/-- The paths of the three inputs. -/
structure InputPaths where
  toolchain : HostText
  proof : HostText
  sdk : HostText
deriving DecidableEq, Repr

/-- How the inputs of a run are hashed. -/
inductive HashingMode where
  /-- One after the other, up to the first failure. -/
  | sequential
  /-- All of them, at the same time. -/
  | concurrent
deriving DecidableEq, Repr

/-- The mode that runs use unless told otherwise. -/
def HashingMode.standard : HashingMode := .concurrent

/-- The name of a mode. -/
def HashingMode.name : HashingMode → String
  | .sequential => "Sequential"
  | .concurrent => "Concurrent"

/-- An order in which tasks that run at the same time take effect. -/
structure Schedule where
  order : List Input
  isComplete : order.Perm Input.all

/-- The schedule that keeps to the binding order. -/
def Schedule.binding : Schedule := ⟨Input.all, List.Perm.refl _⟩

/-- What has been found out about the three inputs. -/
structure Findings where
  toolchain : Except Error FileDigest
  proof : Except Error FileDigest
  revision : Except Error RevisionId

namespace Findings

/-- Nothing has been found out. -/
def unknown : Findings :=
  ⟨.error (.bindingIncomplete [.toolchain]),
    .error (.bindingIncomplete [.proof]),
    .error (.bindingIncomplete [.revision])⟩

/-- Carry out the task for one input. -/
def find (paths : InputPaths) (resolver : Resolver)
    (state : Findings × FileSystem) : Input → Findings × FileSystem
  | .toolchain =>
      ({ state.1 with
          toolchain := state.2.hashFile .toolchain paths.toolchain }, state.2)
  | .proof =>
      ({ state.1 with proof := state.2.hashFile .proof paths.proof }, state.2)
  | .revision =>
      let (revision, files) := resolver state.2 paths.sdk
      ({ state.1 with revision := revision }, files)

/-- Carry out all three tasks, on the schedule given. -/
def gather (schedule : Schedule) (paths : InputPaths) (resolver : Resolver)
    (files : FileSystem) : Findings × FileSystem :=
  schedule.order.foldl (find paths resolver) (unknown, files)

/-- The values that have been found. -/
def parts (findings : Findings) : Provenance.Parts :=
  ⟨findings.toolchain.toOption, findings.proof.toOption,
    findings.revision.toOption⟩

end Findings
end ReportBinding
