import ReportBinding.Files.Fault
import ReportBinding.Provenance.RevisionId
import ReportBinding.Text.Host

/-!
# Refusals of checkouts

Why no revision can be told from a checkout.
-/

namespace ReportBinding
namespace Checkout

/-- Why a checkout has no revision. -/
inductive Fault where
  /-- The path leads to no directory. -/
  | notDirectory
  /-- The directory has no metadata of its own. -/
  | noMetadata
  /-- The file that points to the metadata cannot be read. -/
  | unreadablePointer (fault : Files.Fault)
  /-- The file that should point to the metadata does not. -/
  | noPointer
  /-- The metadata that the file points to is no directory. -/
  | danglingPointer (target : HostText)
  /-- The head of the checkout cannot be read. -/
  | unreadableHead (fault : Files.Fault)
  /-- A reference leads to nothing. -/
  | unborn (reference : String)
  /-- References lead to each other without an end. -/
  | endless (reference : String)
  /-- What should be a commit id is none. -/
  | invalidId (fault : RevisionId.Fault)
  /-- The program that is asked for the revision cannot be started. -/
  | notStarted (program : String) (fault : Files.Fault)
  /-- The program that is asked for the revision fails. -/
  | exited (program statusText diagnostics : String)
  /-- A reason in words of its own. -/
  | other (reason : String)
deriving DecidableEq, Repr

/-- The wording of a refusal. -/
def Fault.message : Fault → String
  | .notDirectory => "path is not a directory"
  | .noMetadata => "no .git metadata (submodules not initialized?)"
  | .unreadablePointer fault => "unreadable .git file: " ++ fault.message
  | .noPointer => ".git file has no gitdir pointer"
  | .danglingPointer target => "gitdir " ++ target.display ++ " does not exist"
  | .unreadableHead fault => "unreadable HEAD: " ++ fault.message
  | .unborn reference => reference ++ " does not point to a commit"
  | .endless reference => reference ++ " is a symbolic ref loop"
  | .invalidId fault => fault.message
  | .notStarted program fault =>
      "failed to run " ++ program ++ ": " ++ fault.message
  | .exited program statusText diagnostics =>
      program ++ " rev-parse exited with " ++ statusText ++ ": " ++
        diagnostics
  | .other reason => reason

end Checkout
end ReportBinding
