import ReportBinding.Proofs.Attest.Outcome
import ReportBinding.Proofs.Audit.Requests
import ReportBinding.Proofs.Checkout.Metadata

/-!
# Attesting and auditing

Whoever audits what attesting left behind finds what the run found, as long as
the outputs and the generator keep clear of the inputs and of the metadata that
tells the revision.  The verdict is then that of the quote.
-/

namespace ReportBinding

/-- A generator leaves paths alone: they lead where they led, and to what they
led, whatever it is asked to attest. -/
def Generator.Spares (generator : Generator) (files : FileSystem)
    (paths : List HostText) : Prop :=
  ∀ reportData, ∀ path ∈ paths,
    (generator.generate files reportData).2.resolve true path =
      files.resolve true path

namespace Audit

/-- The request that names all that a run was given and has written. -/
def Request.ofRun (inputs : InputPaths) (quoteOut receiptOut : HostText) :
    Request where
  toolchain := ⟨some inputs.toolchain, none⟩
  proof := ⟨some inputs.proof, none⟩
  sdk := ⟨some inputs.sdk, none⟩
  quote := some quoteOut
  receipt := some receiptOut
  expected := none

/-- The request that names a receipt and nothing else. -/
def Request.ofReceipt (receiptOut : HostText) : Request where
  toolchain := .none
  proof := .none
  sdk := .none
  quote := none
  receipt := some receiptOut
  expected := none

end Audit

namespace Attest

/-- The paths of the inputs and those that tell the revision. -/
def involved (files : FileSystem) (inputs : InputPaths) : List HostText :=
  inputs.toolchain :: inputs.proof :: Checkout.consulted files inputs.sdk

/-- The outputs are two different files, and neither is an input or tells the
revision. -/
structure Apart (files : FileSystem) (inputs : InputPaths)
    (quoteOut receiptOut : HostText) : Prop where
  outputs : ¬files.SamePlace quoteOut receiptOut
  quote : ∀ path ∈ involved files inputs, ¬files.SamePlace quoteOut path
  receipt : ∀ path ∈ involved files inputs, ¬files.SamePlace receiptOut path

/-- Audits of what a run has written come to what the quote attests. -/
structure Agreement (files : FileSystem) (inputs : InputPaths)
    (quoteOut receiptOut : HostText) (receipt : Receipt) (quote : Quote) :
    Prop where
  /-- The bound string and the report data are found again. -/
  recomputes : ∃ provenance,
    Audit.provenance files (.ofRun inputs quoteOut receiptOut)
        (some receipt) = .ok provenance ∧
      provenance.boundString = receipt.boundString ∧
        provenance.reportData = receipt.reportData
  /-- The receipt bears itself out, and the quote does so in both places if it
  attests the report data, which is all that the verdict depends on. -/
  accepts : ∀ attested, Quote.extractReportData quote.bytes = .ok attested →
    audit files (.ofRun inputs quoteOut receiptOut) =
      .ok ⟨receipt.boundString, receipt.reportData,
        [⟨.receipt, receipt.reportData, true⟩,
          ⟨.receiptQuote, attested, decide (attested = receipt.reportData)⟩,
          ⟨.quote quoteOut, attested,
            decide (attested = receipt.reportData)⟩],
        decide (attested = receipt.reportData)⟩
  /-- A quote without report data is refused. -/
  refuses : ∀ fault, Quote.extractReportData quote.bytes = .error fault →
    audit files (.ofRun inputs quoteOut receiptOut) =
      .error (.plain (.malformedQuote fault))
  /-- The receipt alone comes to the same verdict. -/
  acceptsAlone : ∀ attested,
    Quote.extractReportData quote.bytes = .ok attested →
      audit files (.ofReceipt receiptOut) =
        .ok ⟨receipt.boundString, receipt.reportData,
          [⟨.receipt, receipt.reportData, true⟩,
            ⟨.receiptQuote, attested,
              decide (attested = receipt.reportData)⟩],
          decide (attested = receipt.reportData)⟩
  /-- The receipt alone is refused with the same failure. -/
  refusesAlone : ∀ fault,
    Quote.extractReportData quote.bytes = .error fault →
      audit files (.ofReceipt receiptOut) =
        .error (.plain (.malformedQuote fault))

/-! ## What a run found is found again -/

/-- Reading the metadata of a checkout, as a look-up. -/
def lookUp (files : FileSystem) (checkout : HostText) :
    Except Error RevisionId :=
  Checkout.blame checkout (Checkout.readRevision files checkout)

/-- A configuration that reads the metadata has a resolver that only reads. -/
theorem resolver_of_metadata {config : Config}
    (readsMetadata : config.revisionSource = .metadata)
    (host : Program.Host) : config.resolver host = .reading lookUp := by
  unfold Config.resolver
  rw [readsMetadata]
  rfl

/-- The files tell the provenance that a run comes out with. -/
theorem tells_of_outcome {files : FileSystem} {inputs : InputPaths}
    {provenance : Provenance}
    (outcome : (Findings.direct inputs lookUp files).outcome =
      .ok provenance) : files.Tells inputs provenance := by
  obtain ⟨toolchain, proof, revision⟩ :=
    (Findings.outcome_eq_ok_iff _ _).mp outcome
  refine ⟨toolchain, proof, ?_⟩
  unfold Findings.direct lookUp Checkout.blame at revision
  dsimp only at revision
  split at revision
  · next told =>
      cases revision
      exact told
  · cases revision

/-- File systems that agree on the paths involved tell the same
provenance. -/
theorem tells_of_agree {files other : FileSystem} {inputs : InputPaths}
    {provenance : Provenance}
    (agree : ∀ path ∈ involved files inputs, files.Agree other path)
    (tells : files.Tells inputs provenance) :
    other.Tells inputs provenance := by
  have hashed {input : Input} {path : HostText} {digest : FileDigest}
      (isInvolved : path ∈ involved files inputs)
      (was : files.hashFile input path = .ok digest) :
      other.hashFile input path = .ok digest := by
    rw [FileSystem.hashFile_eq_ok_iff] at was ⊢
    obtain ⟨content, holds, isDigest⟩ := was
    exact ⟨content, (agree path isInvolved).holds holds, isDigest⟩
  constructor
  case toolchain => exact hashed (by simp [involved]) tells.toolchain
  case proof => exact hashed (by simp [involved]) tells.proof
  case revision =>
    refine Checkout.readRevision_of_agree ?_ tells.revision
    intro path isConsulted
    apply agree path
    simp [involved, isConsulted]

/-- Once both outputs are written, all paths involved lead to what they led
to, and the outputs hold the quote and the receipt. -/
theorem written_of_apart {files asked withQuote written : FileSystem}
    {inputs : InputPaths} {quoteOut receiptOut : HostText}
    {quoteBytes receiptBytes : Bytes}
    (spared : ∀ path ∈ quoteOut :: receiptOut :: involved files inputs,
      asked.resolve true path = files.resolve true path)
    (apart : Apart files inputs quoteOut receiptOut)
    (quoteWritten : asked.write quoteOut quoteBytes = .ok withQuote)
    (receiptWritten :
      withQuote.write receiptOut receiptBytes = .ok written) :
    (∀ path ∈ involved files inputs, files.Agree written path) ∧
      written.Holds quoteOut quoteBytes ∧
        written.Holds receiptOut receiptBytes := by
  have sparedQuote := spared quoteOut (by simp)
  have sparedReceipt := spared receiptOut (by simp)
  have sparedInvolved : ∀ path ∈ involved files inputs,
      asked.resolve true path = files.resolve true path := by
    intro path isInvolved
    exact spared path (by simp [isInvolved])
  refine ⟨?_, ?_, FileSystem.holds_write receiptWritten⟩
  · intro path isInvolved
    have sparedPath := sparedInvolved path isInvolved
    have notQuote : ¬asked.SamePlace quoteOut path := by
      rw [FileSystem.samePlace_of_resolve sparedQuote sparedPath]
      exact apart.quote path isInvolved
    have notReceipt : ¬withQuote.SamePlace receiptOut path := by
      rw [FileSystem.samePlace_write quoteWritten,
        FileSystem.samePlace_of_resolve sparedReceipt sparedPath]
      exact apart.receipt path isInvolved
    have agreeAsked : files.Agree asked path :=
      FileSystem.agree_of_resolve sparedPath
    exact (agreeAsked.trans (FileSystem.agree_write quoteWritten notQuote))
      |>.trans (FileSystem.agree_write receiptWritten notReceipt)
  · have notReceipt : ¬withQuote.SamePlace receiptOut quoteOut := by
      rw [FileSystem.samePlace_write quoteWritten,
        FileSystem.samePlace_of_resolve sparedReceipt sparedQuote,
        FileSystem.samePlace_comm]
      exact apart.outputs
    exact (FileSystem.agree_write receiptWritten notReceipt).holds
      (FileSystem.holds_write quoteWritten)

/-! ## The verdict on a run -/

/-- Audits of a receipt and a quote file that bear out the inputs come to what
the quote attests. -/
theorem agreement_of_bearOut {files : FileSystem} {inputs : InputPaths}
    {quoteOut receiptOut : HostText} {receipt : Receipt} {quote : Quote}
    (bearOut : Audit.BearOut files inputs receiptOut receipt)
    (hasQuote : receipt.quote = some quote)
    (holds : files.Holds quoteOut quote.bytes) :
    Agreement files inputs quoteOut receiptOut receipt quote := by
  have asksRun : (Audit.Request.ofRun inputs quoteOut receiptOut).AsksAbout
      inputs receiptOut :=
    ⟨.inl rfl, .inl rfl, .inl rfl, rfl, rfl⟩
  have asksReceipt : (Audit.Request.ofReceipt receiptOut).AsksAbout inputs
      receiptOut :=
    ⟨.inr rfl, .inr rfl, .inr rfl, rfl, rfl⟩
  constructor
  case recomputes =>
    refine ⟨receipt.provenance, ?_, bearOut.boundString.symm,
      bearOut.reportData.symm⟩
    exact Audit.provenance_of_tells asksRun bearOut.tells
  case accepts =>
    intro attested extracted
    refine Audit.audit_of_extract bearOut asksRun hasQuote ?_ extracted
    intro path isQuote
    cases isQuote
    exact holds
  case refuses =>
    intro fault malformed
    exact Audit.audit_of_malformed bearOut asksRun hasQuote malformed
  case acceptsAlone =>
    intro attested extracted
    refine Audit.audit_of_extract bearOut asksReceipt hasQuote ?_ extracted
    intro path isQuote
    cases isQuote
  case refusesAlone =>
    intro fault malformed
    exact Audit.audit_of_malformed bearOut asksReceipt hasQuote malformed

/-- A run that succeeds leaves a receipt and a quote file of which all audits
come to what the quote attests, if the revision is read from the metadata and
the outputs and the generator keep clear of what is involved. -/
theorem audit_agrees (platform : Platform) (config : Config)
    (generator : Generator) (quoteOut receiptOut : HostText) (world : World)
    (receipt : Receipt) (readsMetadata : config.revisionSource = .metadata)
    (spares : generator.Spares world.files
      (quoteOut :: receiptOut :: involved world.files config.inputs))
    (apart : Apart world.files config.inputs quoteOut receiptOut)
    (succeeded : (attestWith platform config generator (some quoteOut)
      (some receiptOut) world).result = .ok receipt) :
    ∃ quote, receipt.quote = some quote ∧
      (generator.generate world.files receipt.reportData).1 = .ok quote ∧
        Agreement
          (attestWith platform config generator (some quoteOut)
            (some receiptOut) world).world.files
          config.inputs quoteOut receiptOut receipt quote := by
  have searched := Findings.search_reading config.mode platform.schedule
    config.inputs lookUp world.files
  rw [← resolver_of_metadata readsMetadata platform.host] at searched
  obtain ⟨provenance, quote, document, asked, withQuote, written, outcome,
    answered, quoteWritten, isDocument, receiptWritten, isReceipt⟩ :=
      attestWith_eq_ok searched succeeded
  rw [isReceipt] at isDocument
  have ended := attestWith_of_ok searched outcome answered quoteWritten
    isDocument receiptWritten
  have spared := spares provenance.reportData
  rw [answered] at spared
  obtain ⟨agree, holdsQuote, holdsReceipt⟩ :=
    written_of_apart spared apart quoteWritten receiptWritten
  have bearOut : Audit.BearOut written config.inputs receiptOut
      (receiptOf config provenance quote) :=
    ⟨tells_of_agree agree (tells_of_outcome outcome),
      ⟨document, isDocument, holdsReceipt⟩, rfl, rfl⟩
  subst isReceipt
  refine ⟨quote, rfl, ?_, ?_⟩
  · exact congrArg Prod.fst answered
  · rw [ended]
    exact agreement_of_bearOut bearOut rfl holdsQuote

/-- A commit id of 40 digits. -/
def sampleId : RevisionId :=
  ⟨String.ofList (List.replicate 40 'b'), by decide⟩

/-- A small toolchain and an empty proof, and a checkout whose head is a commit
id. -/
def sampleFiles : FileSystem :=
  (((((FileSystem.empty.put ["tool"] (.file [1] true)).put ["proof"]
    (.file [] false)).put ["sdk"] .directory).put ["sdk", ".git"]
      .directory).put ["sdk", ".git", "HEAD"]
        (.file (Text.Utf8.encode sampleId.text) false))

/-- A configuration for these inputs. -/
def sampleConfig : Config :=
  { Config.standard with inputs := ⟨"tool", "proof", "sdk"⟩ }

/-- A platform without programs. -/
def samplePlatform : Platform where
  host _ _ _ := .error .notFound
  schedule := .binding

/-- A generator of bare quotes. -/
def sampleGenerator : Generator where
  name := "bare"
  generate files reportData := (.ok (Quote.bare 4 reportData), files)

theorem areTexts_sample : sampleConfig.inputs.AreTexts := by
  intro input
  cases input <;> exact HostText.isText_ofText _

theorem readText_sample :
    sampleFiles.readText "sdk/.git/HEAD" = .ok sampleId.text := by
  have found : sampleFiles.find "sdk/.git/HEAD" =
      .ok (.file (Text.Utf8.encode sampleId.text) false) := rfl
  exact FileSystem.Holds.readText_eq_ok ⟨false, found⟩

theorem readRevision_sample :
    Checkout.readRevision sampleFiles "sdk" = .ok sampleId := by
  have metadata : Checkout.metadataDirectory sampleFiles "sdk" =
      .ok "sdk/.git" := rfl
  have head : sampleFiles.readText (Files.Path.join "sdk/.git" "HEAD") =
      .ok sampleId.text := readText_sample
  have noReference : Checkout.referred? sampleId.text = none := rfl
  have trimmed : Text.trim sampleId.text = sampleId.text := rfl
  unfold Checkout.readRevision Checkout.headText
  simp only [metadata, Bind.bind, Except.bind, head, trimmed, noReference,
    sampleId.parse_text]

/-- The files of the sample, and the paths that tell its revision. -/
def sampleInvolved : List HostText :=
  ["tool", "proof", "sdk", "sdk/.git", "sdk/.git/HEAD", "sdk/.git/commondir"]

theorem involved_sample :
    involved sampleFiles sampleConfig.inputs = sampleInvolved := by
  have metadata : Checkout.metadataDirectory sampleFiles "sdk" =
      .ok "sdk/.git" := rfl
  have head : sampleFiles.readText (Files.Path.join "sdk/.git" "HEAD") =
      .ok sampleId.text := readText_sample
  have noReference : Checkout.referred? (Text.trim sampleId.text) =
      none := rfl
  have heads : Checkout.heads sampleFiles "sdk/.git" =
      sampleInvolved.drop 4 := by
    rw [Checkout.heads, head]
    simp only [noReference]
    rfl
  have markers : Checkout.markers sampleFiles "sdk" =
      (sampleInvolved.drop 2).take 2 := rfl
  have consulted : Checkout.consulted sampleFiles "sdk" =
      sampleInvolved.drop 2 := by
    rw [Checkout.consulted, metadata, markers]
    simp only [heads]
    rfl
  exact congrArg (fun paths => _ :: _ :: paths) consulted

theorem apart_sample :
    Apart sampleFiles sampleConfig.inputs "quote" "receipt" := by
  have quote : sampleFiles.location? "quote" =
      some (["quote"] : Location) := rfl
  have receipt : sampleFiles.location? "receipt" =
      some (["receipt"] : Location) := rfl
  have locations : (involved sampleFiles sampleConfig.inputs).map
      sampleFiles.location? =
        ([["tool"], ["proof"], ["sdk"], ["sdk", ".git"],
          ["sdk", ".git", "HEAD"], ["sdk", ".git", "commondir"]] :
            List Location).map some := by
    rw [involved_sample]
    rfl
  have apart {path : HostText} {location : Location}
      (leads : sampleFiles.location? path = some location)
      (isOther : some location ∉ (involved sampleFiles
        sampleConfig.inputs).map sampleFiles.location?) :
      ∀ other ∈ involved sampleFiles sampleConfig.inputs,
        ¬sampleFiles.SamePlace path other := by
    intro other isInvolved same
    have sameLocation := same.location?_eq
    rw [leads] at sameLocation
    apply isOther
    rw [sameLocation]
    exact List.mem_map_of_mem isInvolved
  constructor
  case outputs =>
    intro same
    have sameLocation := same.location?_eq
    rw [quote, receipt] at sameLocation
    exact absurd sameLocation (by decide)
  case quote => exact apart quote (by rw [locations]; decide)
  case receipt => exact apart receipt (by rw [locations]; decide)

/-- What the sample is found to be made of. -/
def sampleProvenance : Provenance :=
  ⟨.ofContent [1], .ofContent [], sampleId⟩

theorem outcome_sample :
    (Findings.direct sampleConfig.inputs lookUp sampleFiles).outcome =
      .ok sampleProvenance := by
  have tool : sampleFiles.find "tool" = .ok (.file [1] true) := rfl
  have proof : sampleFiles.find "proof" = .ok (.file [] false) := rfl
  have revision : lookUp sampleFiles "sdk" = .ok sampleId := by
    rw [lookUp, readRevision_sample]
    rfl
  rw [Findings.outcome_eq_ok_iff]
  simp only [Findings.direct, FileSystem.hashFile_eq_ok_iff]
  exact ⟨⟨_, ⟨true, tool⟩, rfl⟩, ⟨_, ⟨false, proof⟩, rfl⟩, revision⟩

/-- The sample is attested. -/
theorem attestWith_sample :
    ∃ receipt, (attestWith samplePlatform sampleConfig sampleGenerator
      (some "quote") (some "receipt") ⟨sampleFiles, []⟩).result =
        .ok receipt := by
  have searched := Findings.search_reading sampleConfig.mode
    samplePlatform.schedule sampleConfig.inputs lookUp sampleFiles
  have ended := @attestWith_of_ok samplePlatform sampleConfig sampleGenerator
    "quote" "receipt" ⟨sampleFiles, []⟩ _ _ _ _ _ _ _ _ searched
    outcome_sample rfl rfl (Receipt.toJson_of_areTexts areTexts_sample) rfl
  exact ⟨_, congrArg Ending.result ended⟩

/-- The sample is attested, and audits of what is left come to what its quote
attests. -/
theorem audit_agrees_sample :
    ∃ receipt quote,
      (attestWith samplePlatform sampleConfig sampleGenerator (some "quote")
        (some "receipt") ⟨sampleFiles, []⟩).result = .ok receipt ∧
      receipt.quote = some quote ∧
        Agreement
          (attestWith samplePlatform sampleConfig sampleGenerator
            (some "quote") (some "receipt") ⟨sampleFiles, []⟩).world.files
          sampleConfig.inputs "quote" "receipt" receipt quote := by
  obtain ⟨receipt, succeeded⟩ := attestWith_sample
  obtain ⟨quote, hasQuote, -, agreement⟩ := audit_agrees samplePlatform
    sampleConfig sampleGenerator "quote" "receipt" ⟨sampleFiles, []⟩ _ rfl
    (fun _ _ _ => rfl) apart_sample succeeded
  exact ⟨receipt, quote, succeeded, hasQuote, agreement⟩

end Attest
end ReportBinding
