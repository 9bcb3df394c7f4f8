import ReportBinding.Receipt.Basic

/-!
# What checks of receipts accept

A check passes exactly if the receipt names the digest and the delimiter in use,
has the bound string of its provenance, and has that provenance's report data on
record and in its quote: `Receipt.passes_iff`.
-/

namespace ReportBinding
namespace Receipt

/-- A receipt names the digest and the delimiter that report data is made
with. -/
structure HasFormat (receipt : Receipt) : Prop where
  digest : receipt.reportDataDigest = reportDataAlgorithm
  separator : receipt.separator = delimiter

/-- A receipt has the report data of its provenance on record, and in its quote
if it has one. -/
structure IsBound (receipt : Receipt) : Prop where
  reportData : receipt.reportData = receipt.provenance.reportData
  quote : ∀ quote, receipt.quote = some quote →
    quote.reportData = .ok receipt.provenance.reportData

/-- The check of a receipt finds nothing that contradicts it. -/
def Passes (receipt : Receipt) : Prop :=
  ∃ check, receipt.check = .ok check ∧ check.ok = true

variable {receipt : Receipt}

/-- A receipt of another format is refused, whatever else it says. -/
theorem check_of_not_hasFormat (foreign : ¬receipt.HasFormat) :
    receipt.check = .error (.invalidReceipt
      (.foreignFormat receipt.reportDataDigest receipt.separator)) := by
  rw [check, if_pos]
  apply Decidable.byContradiction
  intro agrees
  obtain ⟨digest, separator⟩ := not_or.mp agrees
  exact foreign
    ⟨Decidable.of_not_not digest, Decidable.of_not_not separator⟩

/-- A receipt without a quote is checked for its report data and bound
string. -/
theorem check_of_none (hasFormat : receipt.HasFormat)
    (noQuote : receipt.quote = none) :
    receipt.check = .ok
      ⟨receipt.provenance.reportData,
        receipt.provenance.reportData == receipt.reportData,
        receipt.provenance.boundString == receipt.boundString, none⟩ := by
  rw [check, if_neg (by simp [hasFormat.digest, hasFormat.separator])]
  simp only [noQuote]

theorem check_of_attested {quote : Quote} {attested : ReportData}
    (hasFormat : receipt.HasFormat) (hasQuote : receipt.quote = some quote)
    (attests : quote.reportData = .ok attested) :
    receipt.check = .ok
      ⟨receipt.provenance.reportData,
        receipt.provenance.reportData == receipt.reportData,
        receipt.provenance.boundString == receipt.boundString,
        some (attested == receipt.provenance.reportData)⟩ := by
  rw [check, if_neg (by simp [hasFormat.digest, hasFormat.separator])]
  simp only [hasQuote, attests]

theorem check_of_malformed {quote : Quote} {fault : Quote.Fault}
    (hasFormat : receipt.HasFormat) (hasQuote : receipt.quote = some quote)
    (malformed : quote.reportData = .error fault) :
    receipt.check = .error (.malformedQuote fault) := by
  rw [check, if_neg (by simp [hasFormat.digest, hasFormat.separator])]
  simp only [hasQuote, malformed]

/-- What a receipt without a quote has to say to be bound. -/
theorem isBound_of_none (noQuote : receipt.quote = none) :
    receipt.IsBound ↔
      receipt.reportData = receipt.provenance.reportData := by
  constructor
  · exact IsBound.reportData
  · intro reportData
    refine ⟨reportData, ?_⟩
    intro quote hasQuote
    rw [noQuote] at hasQuote
    cases hasQuote

theorem isBound_of_attested {quote : Quote} {attested : ReportData}
    (hasQuote : receipt.quote = some quote)
    (attests : quote.reportData = .ok attested) :
    receipt.IsBound ↔
      receipt.reportData = receipt.provenance.reportData ∧
        attested = receipt.provenance.reportData := by
  constructor
  · intro isBound
    have same := isBound.quote quote hasQuote
    rw [attests] at same
    injection same with same
    exact ⟨isBound.reportData, same⟩
  · rintro ⟨reportData, same⟩
    refine ⟨reportData, ?_⟩
    intro other hasOther
    rw [hasQuote] at hasOther
    cases hasOther
    rw [attests, same]

theorem not_isBound_of_malformed {quote : Quote} {fault : Quote.Fault}
    (hasQuote : receipt.quote = some quote)
    (malformed : quote.reportData = .error fault) : ¬receipt.IsBound := by
  intro isBound
  have attests := isBound.quote quote hasQuote
  rw [malformed] at attests
  cases attests

/-- A check passes exactly for receipts of the format in use that have the bound
string of their provenance and are bound to it. -/
theorem passes_iff (receipt : Receipt) :
    receipt.Passes ↔
      receipt.HasFormat ∧
        receipt.boundString = receipt.provenance.boundString ∧
          receipt.IsBound := by
  rw [Passes]
  by_cases hasFormat : receipt.HasFormat
  · cases hasQuote : receipt.quote with
    | none =>
        rw [check_of_none hasFormat hasQuote, isBound_of_none hasQuote]
        simp only [Except.ok.injEq, exists_eq_left', Check.ok,
          Option.getD_none, Bool.and_eq_true, beq_iff_eq, and_true,
          hasFormat, true_and]
        constructor
        · rintro ⟨reportData, boundString⟩
          exact ⟨boundString.symm, reportData.symm⟩
        · rintro ⟨boundString, reportData⟩
          exact ⟨reportData.symm, boundString.symm⟩
    | some quote =>
        cases attests : quote.reportData with
        | ok attested =>
            rw [check_of_attested hasFormat hasQuote attests,
              isBound_of_attested hasQuote attests]
            simp only [Except.ok.injEq, exists_eq_left', Check.ok,
              Option.getD_some, Bool.and_eq_true, beq_iff_eq, hasFormat,
              true_and]
            constructor
            · rintro ⟨⟨reportData, boundString⟩, same⟩
              exact ⟨boundString.symm, reportData.symm, same⟩
            · rintro ⟨boundString, reportData, same⟩
              exact ⟨⟨reportData.symm, boundString.symm⟩, same⟩
        | error fault =>
            rw [check_of_malformed hasFormat hasQuote attests]
            simp [not_isBound_of_malformed hasQuote attests]
  · rw [check_of_not_hasFormat hasFormat]
    simp [hasFormat]

end Receipt
end ReportBinding
