import ReportBinding.Json.Fault
import ReportBinding.Provenance.Binding

/-!
# Refusals of receipts

Why a document is no receipt, or a receipt cannot be checked.
-/

namespace ReportBinding
namespace Receipt

/-- Why a receipt is refused. -/
inductive Fault where
  /-- The document is no receipt. -/
  | unreadable (fault : Json.Fault)
  /-- An input path is no text, and has no place in a document. -/
  | illFormedPath
  /-- The receipt was bound with another digest or delimiter. -/
  | foreignFormat (reportDataDigest separator : String)
  /-- A reason in words of its own. -/
  | other (reason : String)

/-- The wording of a refusal. -/
def Fault.message : Fault → String
  | .unreadable fault => fault.message
  | .illFormedPath => "path contains invalid UTF-8 characters"
  | .foreignFormat reportDataDigest separator =>
      "receipt uses " ++ reportDataDigest ++ " with delimiter " ++
        Text.quote separator ++ ", expected " ++ reportDataAlgorithm ++
          " with " ++ Text.quote delimiter
  | .other reason => reason

end Receipt
end ReportBinding
