import ReportBinding.Proofs.Attest.Agreement
import ReportBinding.Proofs.Provenance.Binding
import ReportBinding.Proofs.Receipt.Check

/-!
# What audits of receipts alone accept

An audit that is given a receipt and nothing else accepts it exactly if the
receipt is bound to its provenance.  A check demands more: the bound string and
the names of the digest and the delimiter have to be right as well, which an
audit does not look at.
-/

namespace ReportBinding
namespace Audit

/-- An audit comes to a verdict that finds no mismatch. -/
def Accepts (files : FileSystem) (request : Request) : Prop :=
  ∃ verdict, audit files request = .ok verdict ∧ verdict.ok = true

variable {files : FileSystem} {path : HostText} {receipt : Receipt}

/-! ## Requests that name a receipt and nothing else -/

/-- All inputs are left to the receipt. -/
theorem provenance_ofReceipt (files : FileSystem) (path : HostText)
    (receipt : Receipt) :
    provenance files (.ofReceipt path) (some receipt) =
      .ok receipt.provenance := rfl

/-- All claims are those of the receipt. -/
theorem claims_ofReceipt (files : FileSystem) (path : HostText)
    (receipt : Receipt) :
    claims files (.ofReceipt path) (some receipt) =
      receiptClaims (some receipt) := by
  change (receiptClaims (some receipt) >>= fun recorded =>
    .ok ([] ++ recorded ++ [])) = _
  cases receiptClaims (some receipt) with
  | error failure => rfl
  | ok recorded => simp [bind, Except.bind]

/-- The report data on record and that in the quote are compared with the report
data of the provenance on record. -/
theorem audit_ofReceipt (isRead : readReceipt files path = .ok receipt) :
    audit files (.ofReceipt path) =
      receiptClaims (some receipt) >>= judge receipt.provenance := by
  have isGiven : receipt? files (.ofReceipt path) = .ok (some receipt) := by
    simp only [receipt?, Request.ofReceipt, isRead]
    rfl
  unfold audit
  simp only [bind, Except.bind, isGiven, provenance_ofReceipt,
    claims_ofReceipt]

/-- A receipt alone is accepted exactly if it is bound to its provenance. -/
theorem accepts_ofReceipt_iff (isRead : readReceipt files path = .ok receipt) :
    Accepts files (.ofReceipt path) ↔ receipt.IsBound := by
  rw [Accepts, audit_ofReceipt isRead]
  cases hasQuote : receipt.quote with
  | none =>
      rw [Receipt.isBound_of_none hasQuote]
      simp [receiptClaims, hasQuote, bind, Except.bind, judge]
  | some quote =>
      cases attests : quote.reportData with
      | ok claimed =>
          rw [Receipt.isBound_of_attested hasQuote attests]
          simp [receiptClaims, hasQuote, attested_of_extract attests, bind,
            Except.bind, judge]
      | error fault =>
          simp [receiptClaims, hasQuote, attested_of_malformed attests, bind,
            Except.bind, Receipt.not_isBound_of_malformed hasQuote attests]

theorem readReceipt_of_text {text : String}
    (isText : files.readText path = .ok text)
    (tells : Receipt.ofJson text = .ok receipt) :
    readReceipt files path = .ok receipt := by
  simp only [readReceipt, isText, tells]
  rfl

/-! ## Audits and checks -/

/-- An audit of a receipt alone accepts whatever is bound, and a check passes
whatever is accepted that also has the format in use and the bound string of its
provenance.  So they agree on exactly the receipts that have both or are not
bound. -/
theorem acceptance_of_receipt (files : FileSystem) (path : HostText)
    (text : String) (receipt : Receipt)
    (isText : files.readText path = .ok text)
    (tells : Receipt.ofJson text = .ok receipt) :
    (Accepts files (.ofReceipt path) ↔ receipt.IsBound) ∧
      (receipt.Passes ↔
        Accepts files (.ofReceipt path) ∧ receipt.HasFormat ∧
          receipt.boundString = receipt.provenance.boundString) ∧
      ((Accepts files (.ofReceipt path) ↔ receipt.Passes) ↔
        (receipt.IsBound → receipt.HasFormat ∧
          receipt.boundString = receipt.provenance.boundString)) := by
  have accepts : Accepts files (.ofReceipt path) ↔ receipt.IsBound :=
    accepts_ofReceipt_iff (readReceipt_of_text isText tells)
  rw [accepts, receipt.passes_iff]
  refine ⟨.rfl, ?_, ?_⟩
  · constructor
    · rintro ⟨hasFormat, boundString, isBound⟩
      exact ⟨isBound, hasFormat, boundString⟩
    · rintro ⟨isBound, hasFormat, boundString⟩
      exact ⟨hasFormat, boundString, isBound⟩
  · constructor
    · intro agree isBound
      obtain ⟨hasFormat, boundString, -⟩ := agree.mp isBound
      exact ⟨hasFormat, boundString⟩
    · intro complete
      constructor
      · intro isBound
        obtain ⟨hasFormat, boundString⟩ := complete isBound
        exact ⟨hasFormat, boundString, isBound⟩
      · rintro ⟨-, -, isBound⟩
        exact isBound

/-- The receipt of a run that stopped at the binding. -/
def genuine : Receipt :=
  let provenance : Provenance :=
    ⟨.ofContent [1], .ofContent [], Attest.sampleId⟩
  .ofBound ⟨"tool", "proof", "sdk"⟩ ⟨provenance, provenance.reportData⟩

theorem areTexts_genuine : genuine.inputs.AreTexts := by
  intro input
  cases input <;> exact HostText.isText_ofText _

/-- The files that have a receipt and nothing else. -/
def keeping (receipt : Receipt) : FileSystem :=
  FileSystem.empty.put ["receipt"]
    (.file (Text.Utf8.encode receipt.document) false)

theorem readText_keeping (receipt : Receipt) :
    (keeping receipt).readText "receipt" = .ok receipt.document := by
  have found : (keeping receipt).find "receipt" =
      .ok (.file (Text.Utf8.encode receipt.document) false) := rfl
  exact FileSystem.Holds.readText_eq_ok ⟨false, found⟩

/-- The genuine receipt is accepted, and its check passes. -/
theorem acceptance_of_genuine :
    Accepts (keeping genuine) (.ofReceipt "receipt") ∧ genuine.Passes := by
  obtain ⟨accepts, passes, -⟩ := acceptance_of_receipt (keeping genuine)
    "receipt" genuine.document genuine (readText_keeping genuine)
    (Receipt.ofJson_document areTexts_genuine)
  have isBound : genuine.IsBound :=
    (Receipt.isBound_of_none rfl).mpr rfl
  have isAccepted := accepts.mpr isBound
  exact ⟨isAccepted, passes.mpr ⟨isAccepted, ⟨rfl, rfl⟩, rfl⟩⟩

/-- The genuine receipt, with a bound string that is not that of its
provenance. -/
def forged : Receipt :=
  { genuine with boundString := "" }

/-- The genuine receipt, with a delimiter that is not in use. -/
def foreign : Receipt :=
  { genuine with separator := "::" }

/-- A kept receipt is accepted as soon as it is bound. -/
theorem accepts_keeping (areTexts : receipt.inputs.AreTexts)
    (isBound : receipt.IsBound) :
    Accepts (keeping receipt) (.ofReceipt "receipt") := by
  have isRead := readReceipt_of_text (readText_keeping receipt)
    (Receipt.ofJson_document areTexts)
  exact (accepts_ofReceipt_iff isRead).mpr isBound

/-- The forged and the foreign receipt are accepted, but their checks fail, one
on the bound string, the other before anything is compared. -/
theorem acceptance_of_forged :
    (Receipt.ofJson forged.document = .ok forged ∧
      (keeping forged).readText "receipt" = .ok forged.document ∧
        Accepts (keeping forged) (.ofReceipt "receipt") ∧ ¬forged.Passes) ∧
      Receipt.ofJson foreign.document = .ok foreign ∧
        (keeping foreign).readText "receipt" = .ok foreign.document ∧
          Accepts (keeping foreign) (.ofReceipt "receipt") ∧
            foreign.check = .error (.invalidReceipt
              (.foreignFormat reportDataAlgorithm "::")) := by
  have forgedTexts : forged.inputs.AreTexts := areTexts_genuine
  have foreignTexts : foreign.inputs.AreTexts := areTexts_genuine
  refine ⟨⟨Receipt.ofJson_document forgedTexts, readText_keeping forged, ?_,
    ?_⟩, Receipt.ofJson_document foreignTexts, readText_keeping foreign, ?_,
    ?_⟩
  · exact accepts_keeping forgedTexts ((Receipt.isBound_of_none rfl).mpr rfl)
  · intro passes
    obtain ⟨-, boundString, -⟩ := forged.passes_iff.mp passes
    have isEmpty : forged.boundString.toList.length = 0 := rfl
    rw [boundString, Provenance.toList_boundString, List.length_append,
      FileDigest.length_toHex] at isEmpty
    omega
  · exact accepts_keeping foreignTexts ((Receipt.isBound_of_none rfl).mpr rfl)
  · apply Receipt.check_of_not_hasFormat
    intro hasFormat
    exact absurd hasFormat.separator (by decide)

end Audit
end ReportBinding
