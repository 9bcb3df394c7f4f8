import ReportBinding.Proofs.Audit.Acceptance
import ReportBinding.Proofs.Audit.Sources

/-!
# What verdicts rest on

An audit compares the report data that it rebuilds with every claim that it is
handed, in a fixed order, and with nothing else.  `Audit.Request.Yields` says
what there is in the sources of a request, and an audit comes to a verdict
exactly if there is something of everything asked about, with one claim at
least: `Audit.audit_eq_ok_iff`.  More claims hence never make an audit accept.
-/

namespace ReportBinding
namespace Audit

/-- What there is in the sources of a request. -/
structure Evidence where
  receipt : Option Receipt
  provenance : Provenance
  /-- The report data that is expected. -/
  expected : Option ReportData
  /-- The report data in the quote of the receipt. -/
  recorded : Option ReportData
  /-- The path of the quote file, and the report data in it. -/
  quoted : Option (HostText × ReportData)

namespace Evidence

/-- The claims among the evidence, in the order in which they are compared. -/
def claims (evidence : Evidence) : List (Claimant × ReportData) :=
  (evidence.expected.toList.map fun claimed => (.expected, claimed)) ++
    (evidence.receipt.toList.map fun receipt =>
      (.receipt, receipt.reportData)) ++
    (evidence.recorded.toList.map fun claimed => (.receiptQuote, claimed)) ++
    evidence.quoted.toList.map fun (path, claimed) => (.quote path, claimed)

end Evidence

/-- A request is given a receipt that can be read, or none. -/
def Request.IsGiven (files : FileSystem) (request : Request)
    (receipt : Option Receipt) : Prop :=
  Option.Rel
    (fun path receipt => ∃ text, files.readText path = .ok text ∧
      Receipt.ofJson text = .ok receipt)
    request.receipt receipt

/-- The sources of a request hold evidence, something of everything that the
request asks about and nothing else. -/
structure Request.Yields (files : FileSystem) (request : Request)
    (evidence : Evidence) : Prop where
  receipt : request.IsGiven files evidence.receipt
  provenance : request.Gives files
    (evidence.receipt.map Receipt.provenance) evidence.provenance
  expected : Option.Rel
    (fun text claimed => ReportData.ofHex text = .ok claimed)
    request.expected evidence.expected
  recorded : Option.Rel
    (fun quote claimed => Quote.extractReportData quote.bytes = .ok claimed)
    (evidence.receipt.bind Receipt.quote) evidence.recorded
  quoted : Option.Rel
    (fun path found => found.1 = path ∧ ∃ content,
      files.read path = .ok content ∧
        Quote.extractReportData (quoteOfContent content) = .ok found.2)
    request.quote evidence.quoted

/-- A verdict compares each claim among the evidence, and nothing else, with the
report data of the provenance. -/
structure Verdict.Weighs (verdict : Verdict) (evidence : Evidence) :
    Prop where
  boundString : verdict.boundString = evidence.provenance.boundString
  reportData : verdict.reportData.bytes =
    Hash.sha512 (Text.Utf8.encode verdict.boundString)
  /-- There is one comparison for each claim, in order. -/
  comparisons : (verdict.comparisons.map fun comparison =>
    (comparison.claimant, comparison.claimed)) = evidence.claims
  nonempty : verdict.comparisons ≠ []
  isMatch : ∀ comparison ∈ verdict.comparisons,
    comparison.isMatch = true ↔ comparison.claimed = verdict.reportData
  ok : verdict.ok = true ↔
    ∀ comparison ∈ verdict.comparisons,
      comparison.claimed = verdict.reportData

/-- A verdict gives the report data of the provenance that it rests on. -/
theorem Verdict.Weighs.reportData_eq {verdict : Verdict} {evidence : Evidence}
    (weighs : verdict.Weighs evidence) :
    verdict.reportData = evidence.provenance.reportData := by
  apply ReportData.ext
  rw [weighs.reportData, weighs.boundString]
  rfl

variable {files : FileSystem} {request : Request} {receipt : Option Receipt}

/-! ## Claims -/

theorem receipt?_eq_ok_iff :
    receipt? files request = .ok receipt ↔
      request.IsGiven files receipt := by
  unfold receipt? Request.IsGiven
  cases request.receipt with
  | none => cases receipt <;> simp
  | some path =>
      cases receipt with
      | none =>
          cases isRead : readReceipt files path <;>
            simp [Except.map, isRead]
      | some receipt =>
          rw [map_some_eq_ok_iff, Option.rel_some_some]
          unfold readReceipt
          cases files.readText path with
          | error fault => simp
          | ok text => simp [mapError_eq_ok_iff]

theorem attested_eq_ok_iff {bytes : Bytes} {claimed : ReportData} :
    attested bytes = .ok claimed ↔
      Quote.extractReportData bytes = .ok claimed :=
  mapError_eq_ok_iff

theorem readQuote_eq_ok_iff {path : HostText} {bytes : Bytes} :
    readQuote files path = .ok bytes ↔
      ∃ content, files.read path = .ok content ∧
        quoteOfContent content = bytes := by
  unfold readQuote
  cases files.read path <;> simp

/-- The claim of an expectation is the report data that its text spells. -/
theorem expectedClaims_eq_ok_iff {text : Option String}
    {claims : List (Claimant × ReportData)} :
    expectedClaims text = .ok claims ↔
      ∃ expected, Option.Rel
          (fun text claimed => ReportData.ofHex text = .ok claimed)
          text expected ∧
        claims = expected.toList.map fun claimed => (.expected, claimed) := by
  cases text with
  | none =>
      constructor
      · intro isNone
        cases isNone
        exact ⟨none, .none, rfl⟩
      · rintro ⟨expected, isNone, rfl⟩
        cases isNone
        rfl
  | some text =>
      constructor
      · intro areClaims
        simp only [expectedClaims] at areClaims
        split at areClaims
        · next claimed spells =>
            cases areClaims
            exact ⟨some claimed, .some spells, rfl⟩
        · cases areClaims
      · rintro ⟨expected, isSome, rfl⟩
        cases isSome with
        | some spells =>
            simp only [expectedClaims, spells]
            rfl

/-- The claims of a receipt are the report data on record and that in its
quote. -/
theorem receiptClaims_eq_ok_iff {claims : List (Claimant × ReportData)} :
    receiptClaims receipt = .ok claims ↔
      ∃ recorded, Option.Rel
          (fun quote claimed =>
            Quote.extractReportData quote.bytes = .ok claimed)
          (receipt.bind Receipt.quote) recorded ∧
        claims =
          (receipt.toList.map fun receipt => (.receipt, receipt.reportData)) ++
            recorded.toList.map fun claimed => (.receiptQuote, claimed) := by
  cases receipt with
  | none =>
      constructor
      · intro isNone
        cases isNone
        exact ⟨none, .none, rfl⟩
      · rintro ⟨recorded, isNone, rfl⟩
        cases isNone
        rfl
  | some receipt =>
      simp only [receiptClaims, Option.bind_some]
      cases receipt.quote with
      | none =>
          constructor
          · intro isNone
            cases isNone
            exact ⟨none, .none, rfl⟩
          · rintro ⟨recorded, isNone, rfl⟩
            cases isNone
            rfl
      | some quote =>
          simp only [bind_eq_ok_iff, attested_eq_ok_iff]
          constructor
          · rintro ⟨claimed, attests, areClaims⟩
            cases areClaims
            exact ⟨some claimed, .some attests, rfl⟩
          · rintro ⟨recorded, isSome, rfl⟩
            cases isSome with
            | some attests => exact ⟨_, attests, rfl⟩

/-- The claim of a quote file is the report data in what it holds. -/
theorem quoteClaims_eq_ok_iff {path : Option HostText}
    {claims : List (Claimant × ReportData)} :
    quoteClaims files path = .ok claims ↔
      ∃ quoted : Option (HostText × ReportData), Option.Rel
          (fun path found => found.1 = path ∧ ∃ content,
            files.read path = .ok content ∧
              Quote.extractReportData (quoteOfContent content) =
                .ok found.2)
          path quoted ∧
        claims = quoted.toList.map fun (path, claimed) =>
          (.quote path, claimed) := by
  cases path with
  | none =>
      constructor
      · intro isNone
        cases isNone
        exact ⟨none, .none, rfl⟩
      · rintro ⟨quoted, isNone, rfl⟩
        cases isNone
        rfl
  | some path =>
      simp only [quoteClaims, bind_eq_ok_iff, attested_eq_ok_iff,
        readQuote_eq_ok_iff]
      constructor
      · rintro ⟨_, ⟨content, isRead, rfl⟩, claimed, attests, areClaims⟩
        cases areClaims
        exact ⟨some (path, claimed),
          .some ⟨rfl, content, isRead, attests⟩, rfl⟩
      · rintro ⟨quoted, isSome, rfl⟩
        cases isSome with
        | some found =>
            obtain ⟨rfl, content, isRead, attests⟩ := found
            exact ⟨_, ⟨content, isRead, rfl⟩, _, attests, rfl⟩

/-! ## Verdicts -/

/-- The verdict over evidence. -/
def Evidence.verdict (evidence : Evidence) : Verdict where
  boundString := evidence.provenance.boundString
  reportData := evidence.provenance.reportData
  comparisons := evidence.claims.map fun claim =>
    ⟨claim.1, claim.2, claim.2 == evidence.provenance.reportData⟩
  ok := evidence.claims.all fun claim =>
    claim.2 == evidence.provenance.reportData

theorem judge_eq_ok_iff {evidence : Evidence} {verdict : Verdict} :
    judge evidence.provenance evidence.claims = .ok verdict ↔
      evidence.claims ≠ [] ∧ verdict = evidence.verdict := by
  have isJudged : judge evidence.provenance evidence.claims =
      if evidence.claims.isEmpty then .error .nothingToCompare
      else .ok evidence.verdict := by
    unfold judge Evidence.verdict
    simp [List.all_map, Function.comp_def]
  rw [isJudged]
  split
  · next isEmpty => simp [List.isEmpty_iff.mp isEmpty]
  · next nonempty =>
      rw [List.isEmpty_iff] at nonempty
      simp [nonempty, eq_comm]

/-- An audit comes to a verdict exactly if there is evidence of everything that
it is asked about, and a claim among it. -/
theorem audit_eq_ok_iff {verdict : Verdict} :
    audit files request = .ok verdict ↔
      ∃ evidence, request.Yields files evidence ∧ evidence.claims ≠ [] ∧
        verdict = evidence.verdict := by
  unfold audit claims
  simp only [bind_eq_ok_iff, receipt?_eq_ok_iff, provenance_eq_ok_iff,
    expectedClaims_eq_ok_iff, receiptClaims_eq_ok_iff, quoteClaims_eq_ok_iff]
  constructor
  · rintro ⟨receipt, isReceipt, provenance, gives, _,
      ⟨_, ⟨expected, isExpected, rfl⟩, _, ⟨recorded, isRecorded, rfl⟩, _,
        ⟨quoted, isQuoted, rfl⟩, areClaims⟩, isJudged⟩
    cases areClaims
    rw [← List.append_assoc] at isJudged
    refine ⟨⟨receipt, provenance, expected, recorded, quoted⟩,
      ⟨isReceipt, gives, isExpected, isRecorded, isQuoted⟩, ?_⟩
    exact judge_eq_ok_iff.mp isJudged
  · rintro ⟨evidence, yields, isJudged⟩
    refine ⟨evidence.receipt, yields.receipt, evidence.provenance,
      yields.provenance, evidence.claims,
      ⟨_, ⟨evidence.expected, yields.expected, rfl⟩, _,
        ⟨evidence.recorded, yields.recorded, rfl⟩, _,
        ⟨evidence.quoted, yields.quoted, rfl⟩, ?_⟩,
      judge_eq_ok_iff.mpr isJudged⟩
    simp [Evidence.claims]

theorem Evidence.weighs_verdict {evidence : Evidence}
    (nonempty : evidence.claims ≠ []) :
    evidence.verdict.Weighs evidence := by
  constructor
  case boundString => rfl
  case reportData => rfl
  case comparisons => simp [verdict, Function.comp_def]
  case nonempty => simpa [verdict] using nonempty
  case isMatch =>
    simp only [verdict, List.forall_mem_map, beq_iff_eq, implies_true]
  case ok =>
    simp only [verdict, List.forall_mem_map, List.all_eq_true, beq_iff_eq]

/-- Nothing is accepted but evidence whose claims are all borne out. -/
theorem ok_verdict_iff {evidence : Evidence} :
    evidence.verdict.ok = true ↔
      ∀ claim ∈ evidence.claims,
        claim.2 = evidence.provenance.reportData := by
  simp only [Evidence.verdict, List.all_eq_true, beq_iff_eq]

/-! ## More claims -/

/-- The request, with an expectation. -/
def Request.expecting (request : Request) (text : String) : Request :=
  { request with expected := some text }

/-- The request, with a quote file. -/
def Request.quoting (request : Request) (path : HostText) : Request :=
  { request with quote := some path }

/-- A request hands nothing to compare with. -/
def Request.IsMute (request : Request) : Prop :=
  request.expected = none ∧ request.receipt = none ∧ request.quote = none

theorem eq_none_iff_of_rel {α β : Type} {relation : α → β → Prop}
    {first : Option α} {second : Option β}
    (related : Option.Rel relation first second) :
    first = none ↔ second = none := by
  cases related <;> simp

/-- There are no claims exactly if none are handed over. -/
theorem Request.Yields.claims_eq_nil_iff {evidence : Evidence}
    (yields : request.Yields files evidence) :
    evidence.claims = [] ↔ request.IsMute := by
  have noRecord : evidence.receipt = none → evidence.recorded = none := by
    intro noReceipt
    apply (eq_none_iff_of_rel yields.recorded).mp
    rw [noReceipt]
    rfl
  unfold IsMute
  rw [eq_none_iff_of_rel yields.expected,
    eq_none_iff_of_rel yields.receipt, eq_none_iff_of_rel yields.quoted]
  simp only [Evidence.claims, List.append_eq_nil_iff, List.map_eq_nil_iff,
    Option.toList_eq_nil_iff]
  constructor
  · rintro ⟨⟨⟨noExpected, noReceipt⟩, -⟩, noQuoted⟩
    exact ⟨noExpected, noReceipt, noQuoted⟩
  · rintro ⟨noExpected, noReceipt, noQuoted⟩
    exact ⟨⟨⟨noExpected, noReceipt⟩, noRecord noReceipt⟩, noQuoted⟩

/-- A request is accepted exactly if there is evidence of everything that it
asks about, and all of its claims are borne out. -/
theorem accepts_iff :
    Accepts files request ↔
      ¬request.IsMute ∧ ∃ evidence, request.Yields files evidence ∧
        ∀ claim ∈ evidence.claims,
          claim.2 = evidence.provenance.reportData := by
  constructor
  · rintro ⟨verdict, isVerdict, isOk⟩
    obtain ⟨evidence, yields, nonempty, rfl⟩ := audit_eq_ok_iff.mp isVerdict
    rw [ne_eq, yields.claims_eq_nil_iff] at nonempty
    exact ⟨nonempty, evidence, yields, ok_verdict_iff.mp isOk⟩
  · rintro ⟨notMute, evidence, yields, borneOut⟩
    rw [← yields.claims_eq_nil_iff] at notMute
    exact ⟨evidence.verdict,
      audit_eq_ok_iff.mpr ⟨evidence, yields, notMute, rfl⟩,
      ok_verdict_iff.mpr borneOut⟩

/-- The evidence in a request with an expectation, without it. -/
theorem Request.Yields.of_expecting {evidence : Evidence} {text : String}
    (yields : (request.expecting text).Yields files evidence)
    (noExpected : request.expected = none) :
    request.Yields files { evidence with expected := none } where
  receipt := yields.receipt
  provenance := yields.provenance.alike (.of_eq rfl)
  expected := by
    rw [noExpected]
    exact .none
  recorded := yields.recorded
  quoted := yields.quoted

/-- The evidence in a request with a quote file, without it. -/
theorem Request.Yields.of_quoting {evidence : Evidence} {path : HostText}
    (yields : (request.quoting path).Yields files evidence)
    (noQuote : request.quote = none) :
    request.Yields files { evidence with quoted := none } where
  receipt := yields.receipt
  provenance := yields.provenance.alike (.of_eq rfl)
  expected := yields.expected
  recorded := yields.recorded
  quoted := by
    rw [noQuote]
    exact .none

/-- An expectation does not make an audit accept that has another claim to
compare with. -/
theorem accepts_of_expecting {text : String} (notMute : ¬request.IsMute)
    (noExpected : request.expected = none)
    (accepts : Accepts files (request.expecting text)) :
    Accepts files request := by
  obtain ⟨-, evidence, yields, borneOut⟩ := accepts_iff.mp accepts
  refine accepts_iff.mpr
    ⟨notMute, _, yields.of_expecting noExpected, ?_⟩
  intro claim isClaim
  apply borneOut
  simp only [Evidence.claims, Option.toList_none, List.map_nil,
    List.nil_append, List.append_assoc] at isClaim ⊢
  exact List.mem_append_right _ isClaim

/-- A quote file does not make an audit accept that has another claim to compare
with. -/
theorem accepts_of_quoting {path : HostText} (notMute : ¬request.IsMute)
    (noQuote : request.quote = none)
    (accepts : Accepts files (request.quoting path)) :
    Accepts files request := by
  obtain ⟨-, evidence, yields, borneOut⟩ := accepts_iff.mp accepts
  refine accepts_iff.mpr ⟨notMute, _, yields.of_quoting noQuote, ?_⟩
  intro claim isClaim
  apply borneOut
  simp only [Evidence.claims, Option.toList_none, List.map_nil,
    List.append_nil] at isClaim ⊢
  exact List.mem_append_left _ isClaim

/-! ## All that is handed over -/

/-- An audit accounts for all that a request hands over. -/
structure Accounts (files : FileSystem) (request : Request) : Prop where
  /-- A verdict weighs evidence of everything that is asked about. -/
  weighs : ∀ verdict, audit files request = .ok verdict →
    ∃ evidence, request.Yields files evidence ∧ verdict.Weighs evidence
  /-- With such evidence and something to compare with there is a verdict. -/
  judges : ∀ evidence, request.Yields files evidence → ¬request.IsMute →
    ∃ verdict, audit files request = .ok verdict ∧ verdict.Weighs evidence
  /-- If inputs have neither a source nor a receipt to fall back on, and all
  else that the provenance rests on can be read, just these inputs are
  missing. -/
  lacks : ∀ receipt, request.IsGiven files receipt →
    request.lacking receipt ≠ [] →
      (∀ input, input ∉ request.lacking receipt →
        request.Tells files (receipt.map Receipt.provenance) input) →
      audit files request =
        .error (.plain (.bindingIncomplete (request.lacking receipt)))
  /-- With something else to compare with, no expectation makes an audit accept
  that does not accept without it. -/
  expecting : ∀ text, ¬request.IsMute → request.expected = none →
    Accepts files (request.expecting text) → Accepts files request
  /-- Nor does a quote file. -/
  quoting : ∀ path, ¬request.IsMute → request.quote = none →
    Accepts files (request.quoting path) → Accepts files request

/-- An audit is incomplete if inputs are lacking and all else that the
provenance rests on can be read. -/
theorem audit_of_lacking (isGiven : request.IsGiven files receipt)
    (lacks : request.lacking receipt ≠ [])
    (tells : ∀ input, input ∉ request.lacking receipt →
      request.Tells files (receipt.map Receipt.provenance) input) :
    audit files request =
      .error (.plain (.bindingIncomplete (request.lacking receipt))) := by
  unfold audit
  rw [receipt?_eq_ok_iff.mpr isGiven]
  change (provenance files request receipt >>= fun provenance =>
    claims files request receipt >>= fun claims =>
      judge provenance claims) = _
  rw [provenance_of_lacking lacks tells]
  rfl

/-- Every audit accounts for all that it is handed. -/
theorem accounts (files : FileSystem) (request : Request) :
    Accounts files request := by
  constructor
  case weighs =>
    intro verdict isVerdict
    obtain ⟨evidence, yields, nonempty, rfl⟩ := audit_eq_ok_iff.mp isVerdict
    exact ⟨evidence, yields, Evidence.weighs_verdict nonempty⟩
  case judges =>
    intro evidence yields notMute
    have nonempty : evidence.claims ≠ [] := by
      rwa [ne_eq, yields.claims_eq_nil_iff]
    exact ⟨evidence.verdict,
      audit_eq_ok_iff.mpr ⟨evidence, yields, nonempty, rfl⟩,
      Evidence.weighs_verdict nonempty⟩
  case lacks =>
    intro receipt isGiven lacks tells
    exact audit_of_lacking isGiven lacks tells
  case expecting =>
    intro text notMute noExpected accepts
    exact accepts_of_expecting notMute noExpected accepts
  case quoting =>
    intro path notMute noQuote accepts
    exact accepts_of_quoting notMute noQuote accepts

/-- The request that spells a provenance out, and asks to compare it with
nothing. -/
def Request.spelling (provenance : Provenance) : Request where
  toolchain := ⟨none, some provenance.toolchain.toHex⟩
  proof := ⟨none, some provenance.proof.toHex⟩
  sdk := ⟨none, some provenance.revision.text⟩
  quote := none
  receipt := none
  expected := none

/-- A provenance that is spelled out is given, whatever is on record. -/
theorem gives_spelling (files : FileSystem) (provenance : Provenance)
    (recorded : Option Provenance) :
    (Request.spelling provenance).Gives files recorded provenance where
  toolchain := .spelled provenance.toolchain.ofHex_toHex
  proof := .spelled provenance.proof.ofHex_toHex
  revision := .spelled provenance.revision.parse_text

/-- A provenance that is spelled out is accepted where its report data is
expected, and incomplete as soon as its revision is left out. -/
theorem accounts_spelling :
    (∃ verdict,
      audit .empty ((Request.spelling genuine.provenance).expecting
        genuine.provenance.reportData.toHex) = .ok verdict ∧
      verdict.comparisons.map Comparison.claimed =
        [genuine.provenance.reportData] ∧
      verdict.ok = true) ∧
    audit .empty { Request.spelling genuine.provenance with sdk := .none } =
      .error (.plain (.bindingIncomplete [.revision])) := by
  constructor
  · let evidence : Evidence :=
      ⟨none, genuine.provenance, some genuine.provenance.reportData, none,
        none⟩
    have yields : ((Request.spelling genuine.provenance).expecting
        genuine.provenance.reportData.toHex).Yields .empty evidence :=
      { receipt := .none
        provenance := (gives_spelling .empty _ _).alike (.of_eq rfl)
        expected := .some genuine.provenance.reportData.ofHex_toHex
        recorded := .none
        quoted := .none }
    have notMute : ¬((Request.spelling genuine.provenance).expecting
        genuine.provenance.reportData.toHex).IsMute := by
      rintro ⟨noExpected, -⟩
      cases noExpected
    obtain ⟨verdict, isVerdict, weighs⟩ :=
      (accounts .empty _).judges evidence yields notMute
    have isClaimed : verdict.comparisons.map Comparison.claimed =
        [genuine.provenance.reportData] := by
      have second := congrArg (List.map Prod.snd) weighs.comparisons
      rwa [List.map_map] at second
    refine ⟨verdict, isVerdict, isClaimed, weighs.ok.mpr ?_⟩
    intro comparison isMember
    have claimed := List.mem_map_of_mem (f := Comparison.claimed) isMember
    rw [isClaimed, List.mem_singleton] at claimed
    rw [claimed, weighs.reportData_eq]
  · refine (accounts .empty _).lacks none .none (List.cons_ne_nil _ _) ?_
    intro input notLacking
    have gives := gives_spelling .empty genuine.provenance none
    cases input with
    | toolchain => exact ⟨_, gives.toolchain⟩
    | proof => exact ⟨_, gives.proof⟩
    | revision => exact absurd (List.mem_singleton_self _) notLacking

end Audit
end ReportBinding
