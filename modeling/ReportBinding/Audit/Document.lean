import ReportBinding.Audit

/-!
# Verdict documents

A verdict is printed as a JSON document.
-/

namespace ReportBinding
namespace Audit

open Json

/-- Write the items of an array. -/
def itemsOf (nodes : List Node) : Items :=
  nodes.foldr .cons .closed

/-- Write a comparison. -/
def Comparison.toNode (comparison : Comparison) : Node :=
  .ofMembers
    [("against", .ofText comparison.claimant.label),
      ("claimed", comparison.claimed.toNode),
      ("matches", .boolean comparison.isMatch)]

/-- Write a verdict. -/
def Verdict.toNode (verdict : Verdict) : Node :=
  .ofMembers
    [("bound_string", .ofText verdict.boundString),
      ("report_data", verdict.reportData.toNode),
      ("comparisons",
        .array (itemsOf (verdict.comparisons.map Comparison.toNode))),
      ("ok", .boolean verdict.ok)]

end Audit
end ReportBinding
