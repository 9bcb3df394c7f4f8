import ReportBinding.Proofs.Audit.Evidence

/-!
# What a receipt under audit can influence

A receipt does not supply the evidence against itself.  The value of an input
that has a path or a text is the same whatever receipt is audited, and the text
counts only where there is no path; an input that has neither takes the value on
record: `Audit.independent_of_alike`.
-/

namespace ReportBinding

/-- Two provenances have the same value for an input. -/
def Provenance.SameAt : Input → Provenance → Provenance → Prop
  | .toolchain, first, second => first.toolchain = second.toolchain
  | .proof, first, second => first.proof = second.proof
  | .revision, first, second => first.revision = second.revision

/-- Provenances with the same values are the same. -/
theorem Provenance.eq_of_sameAt {first second : Provenance}
    (same : ∀ input, SameAt input first second) : first = second :=
  Provenance.ext (same .toolchain) (same .proof) (same .revision)

namespace Audit

variable {files : FileSystem} {first second request : Request}

/-! ## Explicit sources -/

/-- Explicit sources that are alike give one value, whatever is on record for
either. -/
theorem Source.Gives.unique_of_alike {α ε δ : Type} {source other : Source}
    {read : HostText → Except ε α} {spell : String → Except δ α}
    {recorded otherRecorded : Option α} {value otherValue : α}
    (gives : source.Gives (fun path value => read path = .ok value)
      (fun text value => spell text = .ok value) recorded value)
    (givesOther : other.Gives (fun path value => read path = .ok value)
      (fun text value => spell text = .ok value) otherRecorded otherValue)
    (alike : source.Alike other) (isExplicit : source.IsExplicit) :
    value = otherValue := by
  have moved := gives.alike alike
  have anyway := moved.anyRecord (alike.isExplicit isExplicit) otherRecorded
  apply anyway.unique givesOther
  · intro path value otherValue isRead otherRead
    exact Except.ok.inj (isRead.symm.trans otherRead)
  · intro text value otherValue isSpelled otherSpelled
    exact Except.ok.inj (isSpelled.symm.trans otherSpelled)

/-- An explicit source gives the same value whatever is on record. -/
theorem Request.Gives.sameAt {recorded otherRecorded : Option Provenance}
    {provenance otherProvenance : Provenance}
    (gives : first.Gives files recorded provenance)
    (givesOther : second.Gives files otherRecorded otherProvenance)
    (alike : first.Alike second) {input : Input}
    (isExplicit : (first.source input).IsExplicit) :
    Provenance.SameAt input provenance otherProvenance := by
  cases input with
  | toolchain =>
      exact Source.Gives.unique_of_alike gives.toolchain givesOther.toolchain
        (alike .toolchain) isExplicit
  | proof =>
      exact Source.Gives.unique_of_alike gives.proof givesOther.proof
        (alike .proof) isExplicit
  | revision =>
      exact Source.Gives.unique_of_alike gives.revision givesOther.revision
        (alike .revision) isExplicit

/-! ## Sources that are left to the receipt -/

/-- A source that is not explicit gives what the receipt has on record. -/
theorem Source.Gives.exists_receipt {α : Type} {source : Source}
    {reads : HostText → α → Prop} {spells : String → α → Prop}
    {receipt : Option Receipt}
    {field : Provenance → α} {value : α}
    (gives : source.Gives reads spells
      ((receipt.map Receipt.provenance).map field) value)
    (isImplicit : ¬source.IsExplicit) :
    ∃ given, receipt = some given ∧ value = field given.provenance := by
  have isRecorded := gives.eq_recorded isImplicit
  rw [Option.map_map] at isRecorded
  obtain ⟨given, isGiven, same⟩ := Option.map_eq_some_iff.mp isRecorded
  exact ⟨given, isGiven, same.symm⟩

/-- The value of an input is the one on record in the receipt. -/
def Evidence.IsRecorded (evidence : Evidence) (input : Input) : Prop :=
  ∃ receipt, evidence.receipt = some receipt ∧
    Provenance.SameAt input evidence.provenance receipt.provenance

/-- An input without a source takes the value on record. -/
theorem Request.Yields.isRecorded {evidence : Evidence}
    (yields : request.Yields files evidence) {input : Input}
    (isImplicit : ¬(request.source input).IsExplicit) :
    evidence.IsRecorded input := by
  have gives := yields.provenance
  cases input with
  | toolchain =>
      exact Source.Gives.exists_receipt gives.toolchain isImplicit
  | proof => exact Source.Gives.exists_receipt gives.proof isImplicit
  | revision => exact Source.Gives.exists_receipt gives.revision isImplicit

/-! ## Texts beside paths -/

/-- Audits of requests that differ in texts beside paths only are the same. -/
theorem audit_eq_of_alike (alike : first.Alike second)
    (sameReceipt : first.receipt = second.receipt)
    (sameQuote : first.quote = second.quote)
    (sameExpected : first.expected = second.expected) :
    audit files first = audit files second := by
  have toolchain (recorded : Option FileDigest) :
      fileDigest files .toolchain first.toolchain recorded =
        fileDigest files .toolchain second.toolchain recorded := by
    rw [fileDigest_eq_consult, fileDigest_eq_consult]
    exact Source.consult_alike (alike .toolchain) _ _ recorded
  have proof (recorded : Option FileDigest) :
      fileDigest files .proof first.proof recorded =
        fileDigest files .proof second.proof recorded := by
    rw [fileDigest_eq_consult, fileDigest_eq_consult]
    exact Source.consult_alike (alike .proof) _ _ recorded
  have revision (recorded : Option RevisionId) :
      revision files first.sdk recorded =
        revision files second.sdk recorded := by
    rw [revision_eq_consult, revision_eq_consult]
    exact Source.consult_alike (alike .revision) _ _ recorded
  unfold audit receipt? provenance parts claims
  simp only [toolchain, proof, revision, sameReceipt, sameQuote, sameExpected]

/-! ## Two audits -/

/-- Two pieces of evidence have the same value for each input that has a source,
and each has the others from its own receipt. -/
structure Evidence.AgreeBut (request : Request) (evidence other : Evidence) :
    Prop where
  sameAt : ∀ input, (request.source input).IsExplicit →
    Provenance.SameAt input evidence.provenance other.provenance
  isRecorded : ∀ input, ¬(request.source input).IsExplicit →
    evidence.IsRecorded input ∧ other.IsRecorded input

/-- Two audits, whose receipts, quotes and expectations may all differ, come to
the same wherever there are sources. -/
structure Independent (files : FileSystem) (first second : Request) :
    Prop where
  /-- If every input has a source, then all verdicts give the same report
  data. -/
  verdicts : (∀ input, (first.source input).IsExplicit) →
    ∀ verdict other, audit files first = .ok verdict →
      audit files second = .ok other →
        verdict.reportData = other.reportData ∧
          verdict.boundString = other.boundString
  /-- If only some inputs have a source, then these have one value, and only the
  others are taken from the receipts. -/
  evidence : ∀ verdict other, audit files first = .ok verdict →
    audit files second = .ok other →
      ∃ evidence otherEvidence,
        first.Yields files evidence ∧ verdict.Weighs evidence ∧
          second.Yields files otherEvidence ∧ other.Weighs otherEvidence ∧
            evidence.AgreeBut first otherEvidence
  /-- Texts beside paths make no difference to anything. -/
  texts : first.receipt = second.receipt → first.quote = second.quote →
    first.expected = second.expected →
      audit files first = audit files second

theorem Request.Yields.agreeBut {evidence other : Evidence}
    (yields : first.Yields files evidence)
    (otherYields : second.Yields files other) (alike : first.Alike second) :
    evidence.AgreeBut first other where
  sameAt _ isExplicit :=
    yields.provenance.sameAt otherYields.provenance alike isExplicit
  isRecorded input isImplicit := by
    refine ⟨yields.isRecorded isImplicit, otherYields.isRecorded ?_⟩
    intro isExplicit
    exact isImplicit ((alike input).symm.isExplicit isExplicit)

/-- Two verdicts on the same sources weigh evidence that agrees wherever there
are sources. -/
theorem exists_agreeBut {verdict other : Verdict} (alike : first.Alike second)
    (isVerdict : audit files first = .ok verdict)
    (isOther : audit files second = .ok other) :
    ∃ evidence otherEvidence,
      first.Yields files evidence ∧ verdict.Weighs evidence ∧
        second.Yields files otherEvidence ∧ other.Weighs otherEvidence ∧
          evidence.AgreeBut first otherEvidence := by
  obtain ⟨evidence, yields, nonempty, rfl⟩ := audit_eq_ok_iff.mp isVerdict
  obtain ⟨otherEvidence, otherYields, otherNonempty, rfl⟩ :=
    audit_eq_ok_iff.mp isOther
  exact ⟨evidence, otherEvidence, yields, Evidence.weighs_verdict nonempty,
    otherYields, Evidence.weighs_verdict otherNonempty,
    yields.agreeBut otherYields alike⟩

/-- Audits with the same sources do not depend on their receipts, nor on texts
beside paths. -/
theorem independent_of_alike (files : FileSystem) (first second : Request)
    (alike : first.Alike second) : Independent files first second := by
  constructor
  case verdicts =>
    intro allExplicit verdict other isVerdict isOther
    obtain ⟨evidence, otherEvidence, -, weighs, -, otherWeighs, agreeBut⟩ :=
      exists_agreeBut alike isVerdict isOther
    have same : evidence.provenance = otherEvidence.provenance :=
      Provenance.eq_of_sameAt fun input =>
        agreeBut.sameAt input (allExplicit input)
    rw [weighs.reportData_eq, weighs.boundString, otherWeighs.reportData_eq,
      otherWeighs.boundString, same]
    exact ⟨rfl, rfl⟩
  case evidence =>
    intro verdict other isVerdict isOther
    exact exists_agreeBut alike isVerdict isOther
  case texts =>
    intro sameReceipt sameQuote sameExpected
    exact audit_eq_of_alike alike sameReceipt sameQuote sameExpected

/-- A request that names the kept file as the toolchain, beside any text, and
spells the other values out. -/
def Request.measuring (text : Option String) : Request :=
  { Request.spelling genuine.provenance with
    toolchain := ⟨some "receipt", text⟩ }

/-- The provenance that such a request is given. -/
def measured : Provenance :=
  { genuine.provenance with
    toolchain := .ofContent (Text.Utf8.encode genuine.document) }

theorem gives_measuring (text : Option String) (recorded : Option Provenance) :
    (Request.measuring text).Gives (keeping genuine) recorded measured := by
  have spells := gives_spelling (keeping genuine) genuine.provenance recorded
  constructor
  case toolchain =>
    apply Source.Gives.read
    rw [FileSystem.hashFile_eq_ok_iff]
    exact ⟨_, ⟨false, rfl⟩, rfl⟩
  case proof => exact spells.proof
  case revision => exact spells.revision

/-- The genuine receipt, which has another toolchain on record, makes no
difference where the toolchain is measured, and neither does the text beside its
path, although it spells no digest. -/
theorem independent_measuring :
    ∃ verdict other,
      audit (keeping genuine)
        { Request.measuring none with receipt := some "receipt" } =
          .ok verdict ∧
      audit (keeping genuine)
        ((Request.measuring (some "no digest")).expecting
          measured.reportData.toHex) = .ok other ∧
      verdict.reportData = other.reportData := by
  let first : Request :=
    { Request.measuring none with receipt := some "receipt" }
  let second : Request :=
    (Request.measuring (some "no digest")).expecting measured.reportData.toHex
  have yields : first.Yields (keeping genuine)
      ⟨some genuine, measured, none, none, none⟩ :=
    { receipt := .some
        ⟨_, readText_keeping genuine,
          Receipt.ofJson_document areTexts_genuine⟩
      provenance := (gives_measuring none _).alike (.of_eq rfl)
      expected := .none
      recorded := .none
      quoted := .none }
  have otherYields : second.Yields (keeping genuine)
      ⟨none, measured, some measured.reportData, none, none⟩ :=
    { receipt := .none
      provenance := (gives_measuring _ _).alike (.of_eq rfl)
      expected := .some measured.reportData.ofHex_toHex
      recorded := .none
      quoted := .none }
  have isVerdict :=
    audit_eq_ok_iff.mpr ⟨_, yields, List.cons_ne_nil _ _, rfl⟩
  have isOther :=
    audit_eq_ok_iff.mpr ⟨_, otherYields, List.cons_ne_nil _ _, rfl⟩
  have alike : first.Alike second := by
    intro input
    cases input with
    | toolchain => exact ⟨rfl, fun noPath => nomatch noPath⟩
    | proof => exact .refl _
    | revision => exact .refl _
  have allExplicit : ∀ input, (first.source input).IsExplicit := by
    intro input
    cases input <;> exact fun isNone => nomatch isNone
  have same := (independent_of_alike (keeping genuine) first second alike)
    |>.verdicts allExplicit _ _ isVerdict isOther
  exact ⟨_, _, isVerdict, isOther, same.1⟩

end Audit
end ReportBinding
