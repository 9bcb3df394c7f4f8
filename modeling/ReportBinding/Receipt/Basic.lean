import ReportBinding.Pipeline.Basic

/-!
# Receipts

A receipt records one run: the provenance, the bound string, the report data
and the quote if there is one.  All but the input files themselves is there to
rebuild the report data, which is what a check does.
-/

namespace ReportBinding

/-- The record of one run. -/
structure Receipt where
  /-- The version of the format. -/
  version : Nat
  version_lt : version < Json.numberBound
  /-- The name of the digest that stands for a file. -/
  fileDigest : String
  /-- The name of the digest that makes report data. -/
  reportDataDigest : String
  /-- What separates the values in the bound string. -/
  separator : String
  inputs : InputPaths
  provenance : Provenance
  boundString : String
  reportData : ReportData
  quote : Option Quote
deriving DecidableEq

namespace Receipt

/-- The version of the format that is written. -/
def currentVersion : Nat := 1

/-- The receipt of a provenance, report data and perhaps a quote. -/
def build (inputs : InputPaths) (provenance : Provenance)
    (reportData : ReportData) (quote : Option Quote) : Receipt where
  version := currentVersion
  version_lt := by decide
  fileDigest := fileDigestAlgorithm
  reportDataDigest := reportDataAlgorithm
  separator := delimiter
  inputs := inputs
  provenance := provenance
  boundString := provenance.boundString
  reportData := reportData
  quote := quote

/-- The receipt of a run that stopped at the binding. -/
def ofBound (inputs : InputPaths) (bound : BoundProvenance) : Receipt :=
  build inputs bound.provenance bound.reportData none

/-- The receipt of a completed run. -/
def ofAttestation (inputs : InputPaths) (attestation : Attestation) :
    Receipt :=
  build inputs attestation.provenance attestation.reportData
    (some attestation.quote)

/-- What a check finds. -/
structure Check where
  /-- The report data of the recorded provenance. -/
  recomputed : ReportData
  reportDataMatches : Bool
  boundStringMatches : Bool
  /-- Whether the quote attests the recomputed report data, if there is a
  quote. -/
  quoteMatches : Option Bool
deriving DecidableEq

/-- Whether nothing contradicts the receipt. -/
def Check.ok (check : Check) : Bool :=
  check.reportDataMatches && check.boundStringMatches &&
    check.quoteMatches.getD true

/-- Rebuild the report data and compare. -/
def check (receipt : Receipt) : Except Error Check :=
  if receipt.reportDataDigest ≠ reportDataAlgorithm ∨
      receipt.separator ≠ delimiter then
    .error (.invalidReceipt
      (.foreignFormat receipt.reportDataDigest receipt.separator))
  else
    let recomputed := receipt.provenance.reportData
    let conclude (quoteMatches : Option Bool) : Check :=
      ⟨recomputed, recomputed == receipt.reportData,
        receipt.provenance.boundString == receipt.boundString, quoteMatches⟩
    match receipt.quote with
    | none => .ok (conclude none)
    | some quote =>
        match quote.reportData with
        | .ok attested => .ok (conclude (some (attested == recomputed)))
        | .error fault => .error (.malformedQuote fault)

end Receipt
end ReportBinding
