import ReportBinding.Failure
import ReportBinding.Receipt.Document

/-!
# Audits

An audit rebuilds report data from the inputs, or from values given for them,
and compares it with what a receipt, a quote and an expectation claim.  Only
inputs that are given neither way are taken from the receipt.
-/

namespace ReportBinding
namespace Audit

/-- Where a value comes from.  A path counts before a value. -/
structure Source where
  path : Option HostText
  value : Option String
deriving DecidableEq, Repr

/-- No source. -/
def Source.none : Source := ⟨Option.none, Option.none⟩

/-- What an audit is asked. -/
structure Request where
  toolchain : Source
  proof : Source
  sdk : Source
  /-- The path of a quote. -/
  quote : Option HostText
  /-- The path of a receipt. -/
  receipt : Option HostText
  /-- The text of the report data that is expected. -/
  expected : Option String
deriving DecidableEq, Repr

/-- What a claim was found in. -/
inductive Claimant where
  | expected
  | receipt
  | receiptQuote
  | quote (path : HostText)
deriving DecidableEq, Repr

/-- The wording of a claimant. -/
def Claimant.label : Claimant → String
  | .expected => "expected"
  | .receipt => "receipt"
  | .receiptQuote => "receipt quote"
  | .quote path => "quote " ++ path.display

/-- A claim, and whether it is borne out. -/
structure Comparison where
  claimant : Claimant
  claimed : ReportData
  isMatch : Bool
deriving DecidableEq

/-- What an audit comes to. -/
structure Verdict where
  boundString : String
  reportData : ReportData
  comparisons : List Comparison
  ok : Bool
deriving DecidableEq

/-- The digest of a source, or else the one on record. -/
def fileDigest (files : FileSystem) (input : Input) (source : Source)
    (recorded : Option FileDigest) :
    Except Failure (Option FileDigest) :=
  match source.path, source.value with
  | some path, _ =>
      match files.hashFile input path with
      | .ok digest => .ok (some digest)
      | .error error => .error (.plain error)
  | none, some text =>
      match FileDigest.ofHex text with
      | .ok digest => .ok (some digest)
      | .error fault => .error (.invalidDigest input fault)
  | none, none => .ok recorded

/-- The revision of a source, or else the one on record. -/
def revision (files : FileSystem) (source : Source)
    (recorded : Option RevisionId) : Except Failure (Option RevisionId) :=
  match source.path, source.value with
  | some path, _ =>
      match (Checkout.metadataResolver files path).1 with
      | .ok id => .ok (some id)
      | .error error => .error (.plain error)
  | none, some text =>
      match RevisionId.parse text with
      | .ok id => .ok (some id)
      | .error fault => .error (.invalidRevision fault)
  | none, none => .ok recorded

/-- The receipt under a path. -/
def readReceipt (files : FileSystem) (path : HostText) :
    Except Failure Receipt :=
  match files.readText path with
  | .error fault => .error (.receiptUnreadable path fault)
  | .ok text => (Receipt.ofJson text).mapError .plain

/-- The bytes that a text of nothing but hexadecimal digits spells. -/
def hexContent? (text : String) : Option Bytes :=
  let digits := Text.dropHexMark (Text.trimmed text.toList)
  if digits.isEmpty || !digits.all Transcript.isHexDigit then none
  else (Hex.decode (String.ofList digits)).toOption

/-- The quote that a file holds, as it is or in hexadecimal digits. -/
def quoteOfContent (content : Bytes) : Bytes :=
  match (Text.Utf8.decode? content).bind hexContent? with
  | some bytes => bytes
  | none => content

/-- The quote under a path. -/
def readQuote (files : FileSystem) (path : HostText) : Except Failure Bytes :=
  match files.read path with
  | .ok content => .ok (quoteOfContent content)
  | .error fault => .error (.quoteUnreadable path fault)

/-- The report data in the bytes of a quote. -/
def attested (bytes : Bytes) : Except Failure ReportData :=
  (Quote.extractReportData bytes).mapError fun fault =>
    .plain (.malformedQuote fault)

/-- The claim of an expectation. -/
def expectedClaims : Option String →
    Except Failure (List (Claimant × ReportData))
  | none => .ok []
  | some text =>
      match ReportData.ofHex text with
      | .ok claimed => .ok [(.expected, claimed)]
      | .error fault => .error (.plain (.invalidReportData fault))

/-- The claims of a receipt. -/
def receiptClaims : Option Receipt →
    Except Failure (List (Claimant × ReportData))
  | none => .ok []
  | some receipt =>
      match receipt.quote with
      | none => .ok [(.receipt, receipt.reportData)]
      | some quote => do
          let claimed ← attested quote.bytes
          .ok [(.receipt, receipt.reportData), (.receiptQuote, claimed)]

/-- The claim of a quote file. -/
def quoteClaims (files : FileSystem) : Option HostText →
    Except Failure (List (Claimant × ReportData))
  | none => .ok []
  | some path => do
      let bytes ← readQuote files path
      let claimed ← attested bytes
      .ok [(.quote path, claimed)]

/-- All claims, in the order in which they are compared. -/
def claims (files : FileSystem) (request : Request)
    (receipt : Option Receipt) :
    Except Failure (List (Claimant × ReportData)) := do
  let expected ← expectedClaims request.expected
  let recorded ← receiptClaims receipt
  let quoted ← quoteClaims files request.quote
  .ok (expected ++ recorded ++ quoted)

/-- The values that are found for the three inputs. -/
def parts (files : FileSystem) (request : Request)
    (receipt : Option Receipt) : Except Failure Provenance.Parts := do
  let recorded := receipt.map Receipt.provenance
  let toolchain ← fileDigest files .toolchain request.toolchain
    (recorded.map Provenance.toolchain)
  let proof ← fileDigest files .proof request.proof
    (recorded.map Provenance.proof)
  let revision ← revision files request.sdk
    (recorded.map Provenance.revision)
  .ok ⟨toolchain, proof, revision⟩

/-- The provenance that is found for the inputs. -/
def provenance (files : FileSystem) (request : Request)
    (receipt : Option Receipt) : Except Failure Provenance := do
  let parts ← parts files request receipt
  match parts.complete with
  | .ok provenance => .ok provenance
  | .error missing => .error (.plain (.bindingIncomplete missing))

/-- The receipt that an audit is given. -/
def receipt? (files : FileSystem) (request : Request) :
    Except Failure (Option Receipt) :=
  match request.receipt with
  | none => .ok none
  | some path => (readReceipt files path).map some

/-- Compare claims with the report data of a provenance. -/
def judge (provenance : Provenance)
    (claims : List (Claimant × ReportData)) : Except Failure Verdict :=
  let reportData := provenance.reportData
  let comparisons := claims.map fun (claimant, claimed) =>
    (⟨claimant, claimed, claimed == reportData⟩ : Comparison)
  if comparisons.isEmpty then .error .nothingToCompare
  else
    .ok ⟨provenance.boundString, reportData, comparisons,
      comparisons.all Comparison.isMatch⟩

end Audit

/-- Rebuild report data and compare it with all claims. -/
def audit (files : FileSystem) (request : Audit.Request) :
    Except Failure Audit.Verdict := do
  let receipt ← Audit.receipt? files request
  let provenance ← Audit.provenance files request receipt
  let claims ← Audit.claims files request receipt
  Audit.judge provenance claims

end ReportBinding
