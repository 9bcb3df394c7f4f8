import ReportBinding.Proofs.Audit.Quotes
import ReportBinding.Proofs.Provenance.Hashing
import ReportBinding.Proofs.Receipt.RoundTrip

/-!
# Audits of receipts with a quote

When the files still tell the provenance that a receipt has on record, an audit
finds that provenance, whether the inputs are named or left to the receipt.  It
then comes down to the report data in the quote: `audit_of_extract` and
`audit_of_malformed`.
-/

namespace ReportBinding

/-- The files tell the provenance of inputs. -/
structure FileSystem.Tells (files : FileSystem) (inputs : InputPaths)
    (provenance : Provenance) : Prop where
  toolchain :
    files.hashFile .toolchain inputs.toolchain = .ok provenance.toolchain
  proof : files.hashFile .proof inputs.proof = .ok provenance.proof
  revision :
    Checkout.readRevision files inputs.sdk = .ok provenance.revision

/-- A path leads to a file that holds the document of a receipt. -/
def FileSystem.HoldsReceipt (files : FileSystem) (path : HostText)
    (receipt : Receipt) : Prop :=
  ∃ document, receipt.toJson = .ok document ∧
    files.Holds path (Text.Utf8.encode document)

namespace Audit

/-- An input is named by its path, or left to the receipt. -/
def Source.Names (source : Source) (path : HostText) : Prop :=
  source = ⟨some path, Option.none⟩ ∨ source = Source.none

/-- A request asks about inputs, a receipt and perhaps a quote file, and
nothing else. -/
structure Request.AsksAbout (request : Request) (inputs : InputPaths)
    (receiptPath : HostText) : Prop where
  toolchain : request.toolchain.Names inputs.toolchain
  proof : request.proof.Names inputs.proof
  sdk : request.sdk.Names inputs.sdk
  receipt : request.receipt = some receiptPath
  expected : request.expected = none

variable {files : FileSystem} {inputs : InputPaths} {request : Request}
  {receipt : Receipt} {receiptPath : HostText}

/-! ## Provenance -/

/-- A file that still has the digest on record gives that digest. -/
theorem fileDigest_of_names {input : Input} {source : Source}
    {path : HostText} {digest : FileDigest} (names : source.Names path)
    (hashed : files.hashFile input path = .ok digest) :
    fileDigest files input source (some digest) = .ok (some digest) := by
  rcases names with rfl | rfl
  · simp only [fileDigest, hashed]
  · rfl

theorem revision_of_names {source : Source} {path : HostText}
    {id : RevisionId} (names : source.Names path)
    (told : Checkout.readRevision files path = .ok id) :
    revision files source (some id) = .ok (some id) := by
  rcases names with rfl | rfl
  · simp only [revision, Checkout.metadataResolver, told, Checkout.blame]
  · rfl

/-- Files that tell the provenance on record give that provenance. -/
theorem provenance_of_tells (asksAbout : request.AsksAbout inputs receiptPath)
    (tells : files.Tells inputs receipt.provenance) :
    provenance files request (some receipt) = .ok receipt.provenance := by
  have toolchain := fileDigest_of_names asksAbout.toolchain tells.toolchain
  have proof := fileDigest_of_names asksAbout.proof tells.proof
  have revision := revision_of_names asksAbout.sdk tells.revision
  unfold provenance parts
  simp only [bind, Except.bind, Option.map_some, toolchain, proof, revision]
  rfl

/-! ## Claims -/

theorem receipt?_of_holds (isReceipt : request.receipt = some receiptPath)
    (holdsReceipt : files.HoldsReceipt receiptPath receipt) :
    receipt? files request = .ok (some receipt) := by
  obtain ⟨document, isDocument, holds⟩ := holdsReceipt
  have isText : files.readText receiptPath = .ok document :=
    holds.readText_eq_ok
  have isRead := Receipt.ofJson_toJson isDocument
  unfold receipt? readReceipt
  simp only [isReceipt, isText, isRead]
  rfl

theorem attested_of_extract {bytes : Bytes} {claimed : ReportData}
    (extracted : Quote.extractReportData bytes = .ok claimed) :
    attested bytes = .ok claimed := by
  rw [attested, extracted]
  rfl

theorem attested_of_malformed {bytes : Bytes} {fault : Quote.Fault}
    (malformed : Quote.extractReportData bytes = .error fault) :
    attested bytes = .error (.plain (.malformedQuote fault)) := by
  rw [attested, malformed]
  rfl

/-- A quote with report data is read from a file that holds its bytes. -/
theorem readQuote_of_extract {path : HostText} {bytes : Bytes}
    {claimed : ReportData} (holds : files.Holds path bytes)
    (extracted : Quote.extractReportData bytes = .ok claimed) :
    readQuote files path = .ok bytes := by
  have isRead : files.read path = .ok bytes :=
    (files.read_eq_ok_iff _ _).mpr holds
  rw [readQuote, isRead]
  exact congrArg Except.ok (quoteOfContent_of_extract extracted)

/-- A quote with report data makes its claim. -/
theorem quoteClaims_of_readQuote {path : HostText} {bytes : Bytes}
    {claimed : ReportData} (isRead : readQuote files path = .ok bytes)
    (extracted : Quote.extractReportData bytes = .ok claimed) :
    quoteClaims files (some path) = .ok [(.quote path, claimed)] := by
  simp only [quoteClaims, isRead, bind, Except.bind,
    attested_of_extract extracted]

/-- The claims of a receipt with a quote and of a file with the same quote. -/
theorem claims_of_extract {quote : Quote} {claimed : ReportData}
    (asksAbout : request.AsksAbout inputs receiptPath)
    (hasQuote : receipt.quote = some quote)
    (holds : ∀ path ∈ request.quote, files.Holds path quote.bytes)
    (extracted : Quote.extractReportData quote.bytes = .ok claimed) :
    claims files request (some receipt) =
      .ok ([(.receipt, receipt.reportData), (.receiptQuote, claimed)] ++
        request.quote.toList.map fun path => (.quote path, claimed)) := by
  have recorded : receiptClaims (some receipt) =
      .ok [(.receipt, receipt.reportData), (.receiptQuote, claimed)] := by
    simp only [receiptClaims, hasQuote, attested_of_extract extracted, bind,
      Except.bind]
  unfold claims
  cases isQuote : request.quote with
  | none =>
      simp only [asksAbout.expected, expectedClaims, recorded, quoteClaims,
        bind, Except.bind]
      rfl
  | some path =>
      have quoted := quoteClaims_of_readQuote
        (readQuote_of_extract (holds path isQuote) extracted) extracted
      simp only [asksAbout.expected, expectedClaims, recorded, quoted, bind,
        Except.bind]
      rfl

/-- There are no claims if the quote of the receipt holds no report data. -/
theorem claims_of_malformed {quote : Quote} {fault : Quote.Fault}
    (asksAbout : request.AsksAbout inputs receiptPath)
    (hasQuote : receipt.quote = some quote)
    (malformed : Quote.extractReportData quote.bytes = .error fault) :
    claims files request (some receipt) =
      .error (.plain (.malformedQuote fault)) := by
  have recorded : receiptClaims (some receipt) =
      .error (.plain (.malformedQuote fault)) := by
    simp only [receiptClaims, hasQuote, attested_of_malformed malformed, bind,
      Except.bind]
  unfold claims
  simp only [asksAbout.expected, expectedClaims, recorded, bind, Except.bind]

/-! ## Verdicts -/

/-- The receipt and the inputs of an audit bear each other out. -/
structure BearOut (files : FileSystem) (inputs : InputPaths)
    (receiptPath : HostText) (receipt : Receipt) : Prop where
  tells : files.Tells inputs receipt.provenance
  holdsReceipt : files.HoldsReceipt receiptPath receipt
  boundString : receipt.boundString = receipt.provenance.boundString
  reportData : receipt.reportData = receipt.provenance.reportData

/-- What an audit finds in a receipt whose quote attests report data, and in
the file with the same quote, if there is one. -/
def verdict (receipt : Receipt) (claimed : ReportData)
    (quotePath : Option HostText) : Verdict where
  boundString := receipt.boundString
  reportData := receipt.reportData
  comparisons :=
    [⟨.receipt, receipt.reportData, true⟩,
      ⟨.receiptQuote, claimed, claimed == receipt.reportData⟩] ++
        quotePath.toList.map fun path =>
          ⟨.quote path, claimed, claimed == receipt.reportData⟩
  ok := claimed == receipt.reportData

/-- An audit accepts exactly if the quote attests the report data on record. -/
theorem audit_of_extract {quote : Quote} {claimed : ReportData}
    (bearOut : BearOut files inputs receiptPath receipt)
    (asksAbout : request.AsksAbout inputs receiptPath)
    (hasQuote : receipt.quote = some quote)
    (holds : ∀ path ∈ request.quote, files.Holds path quote.bytes)
    (extracted : Quote.extractReportData quote.bytes = .ok claimed) :
    audit files request = .ok (verdict receipt claimed request.quote) := by
  have isReceipt := receipt?_of_holds asksAbout.receipt bearOut.holdsReceipt
  have isProvenance := provenance_of_tells asksAbout bearOut.tells
  have areClaims := claims_of_extract asksAbout hasQuote holds extracted
  unfold audit
  simp only [bind, Except.bind, isReceipt, isProvenance, areClaims]
  unfold judge verdict
  rw [← bearOut.boundString, ← bearOut.reportData]
  cases request.quote <;> simp

/-- An audit fails if the quote attests no report data. -/
theorem audit_of_malformed {quote : Quote} {fault : Quote.Fault}
    (bearOut : BearOut files inputs receiptPath receipt)
    (asksAbout : request.AsksAbout inputs receiptPath)
    (hasQuote : receipt.quote = some quote)
    (malformed : Quote.extractReportData quote.bytes = .error fault) :
    audit files request = .error (.plain (.malformedQuote fault)) := by
  have isReceipt := receipt?_of_holds asksAbout.receipt bearOut.holdsReceipt
  have isProvenance := provenance_of_tells asksAbout bearOut.tells
  have noClaims := @claims_of_malformed files _ _ _ _ _ _ asksAbout hasQuote
    malformed
  unfold audit
  simp only [bind, Except.bind, isReceipt, isProvenance, noClaims]

end Audit
end ReportBinding
