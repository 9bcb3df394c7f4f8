import ReportBinding.Files.Fault
import ReportBinding.Quote.Transcript
import ReportBinding.Text.Host

/-!
# Failures of quote generators

Why a generator delivers no quote.
-/

namespace ReportBinding
namespace Generator

/-- Why a generator delivers no quote. -/
inductive Fault where
  /-- A quote of an earlier run cannot be removed. -/
  | staleFile (path : HostText) (fault : Files.Fault)
  /-- The generator cannot be started. -/
  | notStarted (fault : Files.Fault)
  /-- The generator reports failure. -/
  | exited (statusText diagnostics : String)
  /-- What the generator prints holds no quote. -/
  | transcript (fault : Transcript.Fault)
  /-- The file for the quote cannot be read. -/
  | noFile (path : HostText) (fault : Files.Fault)
  /-- The file for the quote is empty. -/
  | emptyFile (path : HostText)
  /-- A reason in words of its own. -/
  | other (reason : String)
deriving DecidableEq, Repr

/-- The wording of a failure. -/
def Fault.message : Fault → String
  | .staleFile path fault =>
      "cannot clear stale quote file " ++ path.display ++ ": " ++ fault.message
  | .notStarted fault => "failed to spawn: " ++ fault.message
  | .exited statusText diagnostics =>
      "exited with " ++ statusText ++ ": " ++ diagnostics
  | .transcript fault => fault.message
  | .noFile path fault =>
      "no quote written to " ++ path.display ++ ": " ++ fault.message
  | .emptyFile path => "empty quote file " ++ path.display
  | .other reason => reason

end Generator
end ReportBinding
