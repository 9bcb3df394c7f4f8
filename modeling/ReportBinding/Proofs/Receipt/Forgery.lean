import ReportBinding.Proofs.Provenance.Binding
import ReportBinding.Proofs.Quote.Layout
import ReportBinding.Proofs.Receipt.Check

/-!
# What forged receipts can say

The fields of a receipt can be altered one by one.  A check that passes ties
provenance, bound string and report data to each other: whoever keeps the bound
string keeps all three, and so does whoever keeps the report data or the quote,
unless two bound strings collide under SHA-512.  It also ties the receipt to
the one that is written for its inputs, provenance and quote, in all but the
version and the name of the file digest, which a check does not look at.
-/

namespace ReportBinding
namespace Receipt

variable {receipt first second : Receipt}

/-! ## What a check that passes says -/

theorem Passes.boundString (passes : receipt.Passes) :
    receipt.boundString = receipt.provenance.boundString :=
  (receipt.passes_iff.mp passes).2.1

theorem Passes.isBound (passes : receipt.Passes) : receipt.IsBound :=
  (receipt.passes_iff.mp passes).2.2

/-- Two receipts say the same of what was bound. -/
structure SameBinding (first second : Receipt) : Prop where
  provenance : first.provenance = second.provenance
  boundString : first.boundString = second.boundString
  reportData : first.reportData = second.reportData

/-- Two receipts have quotes that attest the same report data. -/
def AttestAlike (first second : Receipt) : Prop :=
  ∃ firstQuote secondQuote attested,
    first.quote = some firstQuote ∧ second.quote = some secondQuote ∧
      firstQuote.reportData = .ok attested ∧
        secondQuote.reportData = .ok attested

/-- The provenance settles the bound string and the report data. -/
theorem Passes.sameBinding (firstPasses : first.Passes)
    (secondPasses : second.Passes)
    (same : first.provenance = second.provenance) :
    SameBinding first second where
  provenance := same
  boundString := by
    rw [firstPasses.boundString, secondPasses.boundString, same]
  reportData := by
    rw [firstPasses.isBound.reportData, secondPasses.isBound.reportData, same]

/-- The bound string settles the provenance and the report data. -/
theorem Passes.sameBinding_of_boundString (firstPasses : first.Passes)
    (secondPasses : second.Passes)
    (same : first.boundString = second.boundString) :
    SameBinding first second := by
  apply firstPasses.sameBinding secondPasses
  apply Provenance.boundString_injective
  rw [← firstPasses.boundString, ← secondPasses.boundString, same]

/-- The report data settles the provenance and the bound string, unless two
bound strings collide. -/
theorem Passes.sameBinding_or_collides (firstPasses : first.Passes)
    (secondPasses : second.Passes)
    (same : first.reportData = second.reportData) :
    SameBinding first second ∨
      Collides Provenance.textDigest first.boundString
        second.boundString := by
  rw [firstPasses.isBound.reportData, secondPasses.isBound.reportData] at same
  rw [firstPasses.boundString, secondPasses.boundString]
  rcases Provenance.eq_or_collides_of_reportData same with equal | collision
  · exact Or.inl (firstPasses.sameBinding secondPasses equal)
  · exact Or.inr collision

/-- Quotes that attest the same report data stand in receipts that have the same
report data. -/
theorem Passes.reportData_of_attestAlike (firstPasses : first.Passes)
    (secondPasses : second.Passes) (alike : AttestAlike first second) :
    first.reportData = second.reportData := by
  obtain ⟨firstQuote, secondQuote, attested, hasFirst, hasSecond,
    firstAttests, secondAttests⟩ := alike
  have isFirst := firstPasses.isBound.quote firstQuote hasFirst
  have isSecond := secondPasses.isBound.quote secondQuote hasSecond
  rw [firstAttests] at isFirst
  rw [secondAttests] at isSecond
  injection isFirst with isFirst
  injection isSecond with isSecond
  rw [firstPasses.isBound.reportData, secondPasses.isBound.reportData,
    ← isFirst, ← isSecond]

/-- A receipt that passes attests what any receipt with its quote does that
passes. -/
theorem Passes.attestAlike (firstPasses : first.Passes)
    (attested : first.quote.isSome) (same : second.quote = first.quote) :
    AttestAlike first second := by
  obtain ⟨quote, hasQuote⟩ := Option.isSome_iff_exists.mp attested
  have attests := firstPasses.isBound.quote quote hasQuote
  exact ⟨quote, quote, _, hasQuote, same.trans hasQuote, attests, attests⟩

/-! ## Receipts as they are written -/

/-- The receipt that is written for inputs, their provenance and the quote, if a
quote has been asked for: of a binding or of a whole run. -/
def written (inputs : InputPaths) (provenance : Provenance) :
    Option Quote → Receipt
  | none => .ofBound inputs ⟨provenance, provenance.reportData⟩
  | some quote => .ofAttestation inputs ⟨provenance, provenance.reportData,
      quote⟩

theorem written_eq_build (inputs : InputPaths) (provenance : Provenance)
    (quote : Option Quote) :
    written inputs provenance quote =
      build inputs provenance provenance.reportData quote := by
  cases quote <;> rfl

/-- A receipt as it is written passes if its quote attests what was bound. -/
theorem passes_written {inputs : InputPaths} {provenance : Provenance}
    {quote : Option Quote}
    (attests : ∀ given, quote = some given →
      given.reportData = .ok provenance.reportData) :
    (written inputs provenance quote).Passes := by
  rw [written_eq_build, passes_iff]
  exact ⟨⟨rfl, rfl⟩, rfl, rfl, attests⟩

/-- A provenance of two small files and a revision of the digit given. -/
def sampleProvenance (digit : Char)
    (isDigit : isCommitDigit digit = true) : Provenance where
  toolchain := .ofContent [1]
  proof := .ofContent []
  revision := ⟨String.ofList (List.replicate 64 digit), by
    simp [IsCommitId, isDigit]⟩

/-- The receipt of a run, with a bare quote of the version given. -/
def sample (version : Nat) : Receipt :=
  let provenance := sampleProvenance 'c' rfl
  written ⟨"tool", "proof", "sdk"⟩ provenance
    (some (.bare version provenance.reportData))

theorem passes_sample {version offset : Nat}
    (located : Quote.reportDataOffset version = .ok offset) :
    (sample version).Passes := by
  apply passes_written
  rintro quote isBare
  cases isBare
  exact Quote.reportData_bare located _

/-! ## Receipts that are altered in what was bound -/

/-- The receipt with another provenance, bound string and report data. -/
def rebound (receipt : Receipt) (provenance : Provenance)
    (boundString : String) (reportData : ReportData) : Receipt :=
  { receipt with
    provenance := provenance
    boundString := boundString
    reportData := reportData }

/-- Nothing is altered by putting in what was bound already. -/
theorem rebound_eq_self {provenance : Provenance} {boundString : String}
    {reportData : ReportData}
    (same : SameBinding receipt
      (receipt.rebound provenance boundString reportData)) :
    receipt.rebound provenance boundString reportData = receipt := by
  obtain ⟨isProvenance, isBoundString, isReportData⟩ := same
  dsimp only [rebound] at isProvenance isBoundString isReportData
  rw [rebound, ← isProvenance, ← isBoundString, ← isReportData]

/-- Of two receipts that pass, the bound string tells the provenance and the
report data.  The report data tells the provenance and the bound string, and so
does what the quotes attest, unless the two bound strings collide under SHA-512.
A receipt with a quote hence passes no longer once any of the three is altered,
unless the new bound string collides with the old one. -/
theorem passes_pins_binding {first second : Receipt}
    (firstPasses : first.Passes) (secondPasses : second.Passes) :
    (first.boundString = second.boundString →
      first.provenance = second.provenance ∧
        first.reportData = second.reportData) ∧
    (first.reportData = second.reportData ∨ AttestAlike first second →
      SameBinding first second ∨
        Collides Provenance.textDigest first.boundString
          second.boundString) ∧
    ∀ provenance boundString reportData, first.quote.isSome →
      first.rebound provenance boundString reportData ≠ first →
        ¬(first.rebound provenance boundString reportData).Passes ∨
          Collides Provenance.textDigest first.boundString boundString := by
  refine ⟨?_, ?_, ?_⟩
  · intro same
    have binding := firstPasses.sameBinding_of_boundString secondPasses same
    exact ⟨binding.provenance, binding.reportData⟩
  · rintro (same | alike)
    · exact firstPasses.sameBinding_or_collides secondPasses same
    · exact firstPasses.sameBinding_or_collides secondPasses
        (firstPasses.reportData_of_attestAlike secondPasses alike)
  · intro provenance boundString reportData attested altered
    by_cases passes :
        (first.rebound provenance boundString reportData).Passes
    · have alike : AttestAlike first
          (first.rebound provenance boundString reportData) :=
        firstPasses.attestAlike attested rfl
      have same := firstPasses.reportData_of_attestAlike passes alike
      rcases firstPasses.sameBinding_or_collides passes same with
        binding | collision
      · exact absurd (rebound_eq_self binding) altered
      · exact Or.inr collision
    · exact Or.inl passes

/-- Two receipts with quotes of different versions agree on what was bound or
collide, and none of them passes any longer with another revision, unless the
two bound strings collide. -/
theorem passes_pins_binding_samples :
    (sample 4).Passes ∧ (sample 5).Passes ∧
      AttestAlike (sample 4) (sample 5) ∧
      (SameBinding (sample 4) (sample 5) ∨
        Collides Provenance.textDigest (sample 4).boundString
          (sample 5).boundString) ∧
      let other := sampleProvenance 'd' rfl
      ¬((sample 4).rebound other other.boundString other.reportData).Passes ∨
        Collides Provenance.textDigest (sample 4).boundString
          other.boundString := by
  have first : (sample 4).Passes := passes_sample rfl
  have second : (sample 5).Passes := passes_sample rfl
  have alike : AttestAlike (sample 4) (sample 5) :=
    ⟨_, _, _, rfl, rfl, Quote.reportData_bare rfl _,
      Quote.reportData_bare rfl _⟩
  obtain ⟨-, pins, tied⟩ := passes_pins_binding first second
  refine ⟨first, second, alike, pins (Or.inr alike), ?_⟩
  apply tied _ _ _ rfl
  intro same
  have revisions := congrArg (fun receipt : Receipt =>
    receipt.provenance.revision.text) same
  exact absurd revisions (by decide)

/-! ## Receipts that are altered in their labels -/

/-- The receipt with another version and another name of the file digest. -/
def relabelled (receipt : Receipt) (version : Nat)
    (version_lt : version < Json.numberBound) (fileDigest : String) :
    Receipt :=
  { receipt with
    version := version
    version_lt := version_lt
    fileDigest := fileDigest }

/-- Labels make no difference to a check. -/
theorem passes_relabelled_iff (version : Nat)
    (version_lt : version < Json.numberBound) (fileDigest : String) :
    (receipt.relabelled version version_lt fileDigest).Passes ↔
      receipt.Passes := .rfl

theorem currentVersion_lt : currentVersion < Json.numberBound := by
  decide

/-- The receipt with the version and the name of the file digest that are
written. -/
def withCurrentLabels (receipt : Receipt) : Receipt :=
  receipt.relabelled currentVersion currentVersion_lt fileDigestAlgorithm

/-- A receipt has the format, the bound string and the report data of its
provenance exactly if it is what is written, but for its labels. -/
theorem withCurrentLabels_eq_written_iff (receipt : Receipt) :
    receipt.withCurrentLabels =
        written receipt.inputs receipt.provenance receipt.quote ↔
      receipt.HasFormat ∧
        receipt.boundString = receipt.provenance.boundString ∧
          receipt.reportData = receipt.provenance.reportData := by
  rw [written_eq_build, withCurrentLabels, relabelled, build]
  simp only [Receipt.mk.injEq, true_and, and_true]
  constructor
  · rintro ⟨digest, separator, boundString, reportData⟩
    exact ⟨⟨digest, separator⟩, boundString, reportData⟩
  · rintro ⟨⟨digest, separator⟩, boundString, reportData⟩
    exact ⟨digest, separator, boundString, reportData⟩

/-- A check passes exactly for receipts that are what is written for their
inputs, provenance and quote, but for the version and the name of the file
digest, and whose quote, if there is one, attests the report data of the
provenance.  Whatever the two labels are, the check comes to the same.  A
receipt that names another digest of report data or another delimiter never
passes. -/
theorem passes_iff_written (receipt : Receipt) :
    (receipt.Passes ↔
      receipt.withCurrentLabels =
          written receipt.inputs receipt.provenance receipt.quote ∧
        ∀ quote, receipt.quote = some quote →
          Quote.extractReportData quote.bytes =
            .ok receipt.provenance.reportData) ∧
    (∀ version version_lt fileDigest,
      (receipt.relabelled version version_lt fileDigest).check =
        receipt.check) ∧
    (receipt.reportDataDigest ≠ "sha512" ∨ receipt.separator ≠ "||" →
      ¬receipt.Passes) := by
  refine ⟨?_, ?_, ?_⟩
  · rw [receipt.passes_iff, withCurrentLabels_eq_written_iff]
    constructor
    · rintro ⟨hasFormat, boundString, isBound⟩
      exact ⟨⟨hasFormat, boundString, isBound.reportData⟩, isBound.quote⟩
    · rintro ⟨⟨hasFormat, boundString, reportData⟩, attests⟩
      exact ⟨hasFormat, boundString, reportData, attests⟩
  · intro version version_lt fileDigest
    rfl
  · intro foreign passes
    obtain ⟨hasFormat, -⟩ := receipt.passes_iff.mp passes
    rcases foreign with isForeign | isForeign
    · exact isForeign hasFormat.digest
    · exact isForeign hasFormat.separator

/-- The sample passes; it no longer does when it names another delimiter. -/
theorem passes_iff_written_sample :
    (sample 5).Passes ∧ ¬{ sample 5 with separator := "::" }.Passes := by
  obtain ⟨passesIff, -, -⟩ := passes_iff_written (sample 5)
  obtain ⟨-, -, refused⟩ :=
    passes_iff_written { sample 5 with separator := "::" }
  constructor
  · apply passesIff.mpr
    refine ⟨rfl, ?_⟩
    rintro quote isBare
    cases isBare
    exact Quote.reportData_bare rfl _
  · exact refused (Or.inr (by decide))

/-- The sample, of a version that is not in use. -/
def superseded : Receipt :=
  (sample 4).relabelled 2 (by decide) fileDigestAlgorithm

/-- The sample, with the name of a file digest that is not in use. -/
def misnamed : Receipt :=
  (sample 4).relabelled currentVersion currentVersion_lt "md5"

/-- Receipts pass that are not what is written for their inputs, provenance and
quote: one of another version, and one that names another file digest. -/
theorem passes_of_other_labels :
    (superseded.Passes ∧
      superseded ≠ written superseded.inputs superseded.provenance
        superseded.quote) ∧
    misnamed.Passes ∧
      misnamed ≠ written misnamed.inputs misnamed.provenance
        misnamed.quote := by
  have passes : (sample 4).Passes := passes_sample rfl
  refine ⟨⟨?_, ?_⟩, ?_, ?_⟩
  · exact (passes_relabelled_iff _ _ _).mpr passes
  · intro same
    exact absurd (congrArg Receipt.version same) (by decide)
  · exact (passes_relabelled_iff _ _ _).mpr passes
  · intro same
    exact absurd (congrArg Receipt.fileDigest same) (by decide)

end Receipt
end ReportBinding
