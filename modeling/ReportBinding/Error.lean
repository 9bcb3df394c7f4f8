import ReportBinding.Checkout.Fault
import ReportBinding.Pipeline.Stage
import ReportBinding.Provenance.Input
import ReportBinding.Quote.Generator.Fault
import ReportBinding.Receipt.Fault

/-!
# Errors

What can go wrong between the inputs and the receipt, and how it is worded.
-/

namespace ReportBinding

/-- A cause of failure. -/
inductive Error where
  /-- There is no file for an input. -/
  | inputNotFound (input : Input) (path : HostText)
  /-- No revision can be told from the checkout. -/
  | repositoryNotInitialized (path : HostText) (reason : Checkout.Fault)
  /-- Reading an input fails. -/
  | io (input : Input) (path : HostText) (fault : Files.Fault)
  /-- Values to be bound are missing. -/
  | bindingIncomplete (missing : List Input)
  /-- The generator delivers no quote. -/
  | generatorFailed (program : String) (reason : Generator.Fault)
  /-- A text is no report data. -/
  | invalidReportData (reason : ReportData.Fault)
  /-- A receipt is refused. -/
  | invalidReceipt (reason : Receipt.Fault)
  /-- A quote holds no report data. -/
  | malformedQuote (reason : Quote.Fault)
  /-- An operation is out of order. -/
  | invalidTransition (source target : Stage)

namespace Error

/-- The wording of an error. -/
def message : Error → String
  | .inputNotFound input path =>
      input.label ++ " not found at " ++ path.display
  | .repositoryNotInitialized path reason =>
      "attestation SDK checkout at " ++ path.display ++
        " is not initialized: " ++ reason.message
  | .io input path fault =>
      "IO error reading " ++ input.label ++ " at " ++ path.display ++ ": " ++
        fault.message
  | .bindingIncomplete missing =>
      "binding incomplete, missing: " ++ Input.labels missing
  | .generatorFailed program reason =>
      "quote generator " ++ program ++ " failed: " ++ reason.message
  | .invalidReportData reason => "Invalid report_data: " ++ reason.message
  | .invalidReceipt reason => "Invalid receipt: " ++ reason.message
  | .malformedQuote reason => "Malformed quote: " ++ reason.message
  | .invalidTransition source target =>
      "Invalid pipeline transition " ++ source.name ++ " -> " ++ target.name

/-- The input that an error is put down to. -/
def input? : Error → Option Input
  | .inputNotFound input _ => some input
  | .io input _ _ => some input
  | .repositoryNotInitialized _ _ => some .revision
  | _ => none

end Error
end ReportBinding
