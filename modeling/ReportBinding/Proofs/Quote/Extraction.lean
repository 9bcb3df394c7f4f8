import ReportBinding.Proofs.Quote.Layout

/-!
# Report data as a part of quotes

Report data is read from a quote exactly if the quote is laid out as a TDX quote
of a known version: `Quote.extractReportData_eq_ok_iff`.  Only the numbers of
the version and of the environment and the report data itself are looked at, so
report data can be replaced, and whatever else is changed or appended makes no
difference: `Quote.extraction_is_lens`.
-/

namespace ReportBinding
namespace Bytes

/-! ## Fields -/

/-- A field stands at a position of a sequence, whole. -/
def StandsAt (start : Nat) (field content : Bytes) : Prop :=
  field <+: content.drop start

/-- The bytes of a field, each looked up by its index.  There are none if an
index is out of range. -/
def indexed? (content : Bytes) (start : Nat) : Nat → Option Bytes
  | 0 => some []
  | width + 1 => do
      let byte ← content[start]?
      let rest ← content.indexed? (start + 1) width
      some (byte :: rest)

variable {start width : Nat} {field content : Bytes}

theorem standsAt_iff_slice :
    StandsAt start field content ↔
      slice start field.length content = field := by
  rw [StandsAt, List.prefix_iff_eq_take, eq_comm]
  rfl

theorem standsAt_slice :
    StandsAt start (slice start width content) content :=
  List.take_prefix _ _

theorem length_slice (fits : start + width ≤ content.length) :
    (slice start width content).length = width := by
  rw [slice, List.length_take, List.length_drop]
  omega

/-- A field lies within the sequence that it stands in. -/
theorem StandsAt.fits (stands : StandsAt start field content)
    (nonempty : field ≠ []) : start + field.length ≤ content.length := by
  have bound := stands.length_le
  have positive := List.length_pos_iff.mpr nonempty
  rw [List.length_drop] at bound
  omega

/-- A field stands wherever the bytes at its positions are the same. -/
theorem StandsAt.of_agree {others : Bytes}
    (stands : StandsAt start field content)
    (agree : ∀ index, start ≤ index → index < start + field.length →
      others[index]? = content[index]?) :
    StandsAt start field others := by
  rw [StandsAt, List.prefix_iff_getElem?] at stands ⊢
  intro index inField
  rw [← stands index inField, List.getElem?_drop, List.getElem?_drop]
  exact agree _ (by omega) (by omega)

/-- Two fields of one width at one position are the same. -/
theorem StandsAt.unique {other : Bytes}
    (stands : StandsAt start field content)
    (otherStands : StandsAt start other content)
    (sameWidth : field.length = other.length) : field = other :=
  (List.prefix_of_prefix_length_le stands otherStands
    (Nat.le_of_eq sameWidth)).eq_of_length sameWidth

theorem standsAt_overwrite (begins : start ≤ content.length) :
    StandsAt start field (overwrite start field content) :=
  standsAt_iff_slice.mpr (slice_overwrite rfl begins)

/-- In front of a field that is written everything stays. -/
theorem getElem?_overwrite_of_lt {index : Nat} (inFront : index < start)
    (begins : start ≤ content.length) :
    (overwrite start field content)[index]? = content[index]? := by
  rw [overwrite, List.append_assoc, List.getElem?_append_left,
    List.getElem?_take_of_lt inFront]
  rw [List.length_take]
  omega

/-- Writing a field where it stands changes nothing. -/
theorem StandsAt.overwrite_eq_self (stands : StandsAt start field content) :
    overwrite start field content = content := by
  obtain ⟨behind, isBehind⟩ := stands
  rw [overwrite, ← List.drop_drop, ← isBehind, List.drop_left,
    List.append_assoc, isBehind, List.take_append_drop]

/-- Of two fields written at one position the second one is left. -/
theorem overwrite_overwrite {other : Bytes}
    (sameWidth : other.length = field.length)
    (begins : start ≤ content.length) :
    overwrite start other (overwrite start field content) =
      overwrite start other content := by
  have lead : (content.take start).length = start :=
    List.length_take_of_le begins
  have front : (overwrite start field content).take start =
      content.take start := by
    rw [overwrite, List.append_assoc, List.take_left' lead]
  have back : (overwrite start field content).drop (start + other.length) =
      content.drop (start + other.length) := by
    rw [overwrite, List.drop_left' (by simp [lead, sameWidth]), sameWidth]
  rw [overwrite, front, back, overwrite]

/-- All indices of a field that fits are in range. -/
theorem indexed?_eq_slice (fits : start + width ≤ content.length) :
    content.indexed? start width = some (slice start width content) := by
  induction width generalizing start with
  | zero => rfl
  | succ width inductionHypothesis =>
      have inRange : start < content.length := by omega
      have further := @inductionHypothesis (start + 1) (by omega)
      have cut : slice start (width + 1) content =
          content[start] :: slice (start + 1) width content := by
        rw [slice, List.drop_eq_getElem_cons inRange, List.take_succ_cons,
          slice]
      rw [indexed?, List.getElem?_eq_getElem inRange, further, cut]
      rfl

/-! ## Numbers -/

/-- Reading a number and writing it back gives its bytes. -/
theorem ofLittleEndian_littleEndian (bytes : Bytes) :
    ofLittleEndian bytes.length (littleEndian bytes) = bytes := by
  induction bytes with
  | nil => rfl
  | cons byte rest inductionHypothesis =>
      have bound := byte.toNat_lt
      have quotient :
          (byte.toNat + 256 * littleEndian rest) / 256 =
            littleEndian rest := by
        omega
      have lowest :
          UInt8.ofNat (byte.toNat + 256 * littleEndian rest) = byte := by
        apply UInt8.toNat_inj.mp
        rw [UInt8.toNat_ofNat']
        omega
      rw [List.length_cons, littleEndian_cons, ofLittleEndian, quotient,
        lowest, inductionHypothesis]

/-- A number is read from a field exactly if its bytes stand there. -/
theorem littleEndian_slice_iff {value : Nat}
    (fits : start + width ≤ content.length)
    (small : value < capacity width) :
    littleEndian (slice start width content) = value ↔
      StandsAt start (ofLittleEndian width value) content := by
  rw [standsAt_iff_slice, length_ofLittleEndian]
  constructor
  · rintro rfl
    have rebuilt := ofLittleEndian_littleEndian (slice start width content)
    rw [length_slice fits] at rebuilt
    exact rebuilt.symm
  · intro isField
    rw [isField, littleEndian_ofLittleEndian width value small]

end Bytes

namespace Quote

open Bytes

variable {bytes : Bytes} {version offset : Nat} {attested : ReportData}

/-! ## Reading -/

/-- The known versions, and where each of them has its report data. -/
def IsLayout (version offset : Nat) : Prop :=
  version = 4 ∧ offset = 568 ∨ version = 5 ∧ offset = 574

/-- A sequence of bytes has the numbers of a TDX quote of a version in front,
least byte first. -/
structure HasNumbers (bytes : Bytes) (version : Nat) : Prop where
  version : StandsAt 0 (ofLittleEndian 2 version) bytes
  environment : StandsAt 4 (ofLittleEndian 4 0x81) bytes

/-- A sequence of bytes is laid out as a TDX quote of a version, with room for
report data at an offset. -/
structure LaidOut (bytes : Bytes) (version offset : Nat) : Prop where
  layout : IsLayout version offset
  numbers : HasNumbers bytes version
  fits : offset + 64 ≤ bytes.length

theorem reportDataOffset_eq_ok_iff :
    reportDataOffset version = .ok offset ↔ IsLayout version offset := by
  unfold IsLayout
  constructor
  · intro located
    unfold reportDataOffset at located
    split at located
    · cases located
      exact .inl ⟨rfl, rfl⟩
    · cases located
      exact .inr ⟨rfl, rfl⟩
    · cases located
  · rintro (⟨rfl, rfl⟩ | ⟨rfl, rfl⟩) <;> rfl

/-- Both layouts have their report data behind the header, and small numbers
for versions. -/
theorem IsLayout.bounds (layout : IsLayout version offset) :
    headerLength ≤ offset ∧ version < capacity 2 := by
  rcases layout with ⟨rfl, rfl⟩ | ⟨rfl, rfl⟩ <;> decide

theorem IsLayout.unique {other : Nat} (layout : IsLayout version offset)
    (otherLayout : IsLayout version other) : other = offset := by
  unfold IsLayout at layout otherLayout
  omega

theorem readHeader_of_fits (fits : headerLength ≤ bytes.length) :
    readHeader bytes =
      .ok ⟨littleEndian (slice 0 2 bytes), littleEndian (slice 2 2 bytes),
        littleEndian (slice 4 4 bytes)⟩ := by
  rw [readHeader, if_neg (Nat.not_lt.mpr fits)]

/-- The header of a sequence that has the numbers of a TDX quote. -/
theorem HasNumbers.readHeader (numbers : HasNumbers bytes version)
    (fits : headerLength ≤ bytes.length) (small : version < capacity 2) :
    readHeader bytes =
      .ok ⟨version, littleEndian (slice 2 2 bytes), tdxType⟩ := by
  unfold headerLength at fits
  have readVersion : littleEndian (slice 0 2 bytes) = version :=
    (littleEndian_slice_iff (by omega) small).mpr numbers.version
  have readType : littleEndian (slice 4 4 bytes) = tdxType :=
    (littleEndian_slice_iff (by omega) (by decide)).mpr numbers.environment
  rw [readHeader_of_fits fits, readVersion, readType]

/-- The numbers are the same where the bytes at their positions are. -/
theorem HasNumbers.of_agree {others : Bytes}
    (numbers : HasNumbers bytes version)
    (agree : ∀ index, index < 2 ∨ 4 ≤ index ∧ index < 8 →
      others[index]? = bytes[index]?) : HasNumbers others version where
  version := by
    apply numbers.version.of_agree
    intro index _ behind
    rw [length_ofLittleEndian] at behind
    exact agree index (.inl (by omega))
  environment := by
    apply numbers.environment.of_agree
    intro index inFront behind
    rw [length_ofLittleEndian] at behind
    exact agree index (.inr ⟨inFront, behind⟩)

/-- Report data is read exactly from where a layout has it. -/
theorem extractReportData_eq_ok_iff :
    extractReportData bytes = .ok attested ↔
      ∃ version offset, LaidOut bytes version offset ∧
        StandsAt offset attested.bytes bytes := by
  constructor
  · intro extracted
    unfold extractReportData at extracted
    split at extracted
    · cases extracted
    next header isHeader =>
    have fits : headerLength ≤ bytes.length := by
      unfold readHeader at isHeader
      split at isHeader
      · cases isHeader
      · next longEnough => exact Nat.not_lt.mp longEnough
    have bound : 48 ≤ bytes.length := fits
    rw [readHeader_of_fits fits] at isHeader
    cases isHeader
    split at extracted
    · cases extracted
    next isTdx =>
    rw [ne_eq, Decidable.not_not] at isTdx
    split at extracted
    · cases extracted
    next offset located =>
    have layout := reportDataOffset_eq_ok_iff.mp located
    split at extracted
    · next room =>
        cases extracted
        refine ⟨_, offset, ⟨layout, ⟨?_, ?_⟩, room⟩, standsAt_slice⟩
        · exact (littleEndian_slice_iff (by omega) layout.bounds.2).mp rfl
        · exact (littleEndian_slice_iff (by omega) (by decide)).mp isTdx
    · cases extracted
  · rintro ⟨version, offset, laidOut, stands⟩
    obtain ⟨behind, small⟩ := laidOut.layout.bounds
    have fits := laidOut.fits
    have isHeader := laidOut.numbers.readHeader (by omega) small
    refine extractReportData_eq_ok isHeader rfl
      (reportDataOffset_eq_ok_iff.mpr laidOut.layout) laidOut.fits ?_
    rw [standsAt_iff_slice, attested.length_bytes] at stands
    exact stands

theorem extracts_iff :
    (∃ attested, extractReportData bytes = .ok attested) ↔
      ∃ version offset, LaidOut bytes version offset := by
  constructor
  · rintro ⟨attested, extracted⟩
    obtain ⟨version, offset, laidOut, -⟩ :=
      extractReportData_eq_ok_iff.mp extracted
    exact ⟨version, offset, laidOut⟩
  · rintro ⟨version, offset, laidOut⟩
    refine ⟨⟨slice offset 64 bytes, length_slice laidOut.fits⟩, ?_⟩
    exact extractReportData_eq_ok_iff.mpr
      ⟨version, offset, laidOut, standsAt_slice⟩

/-! ## Looking bytes up -/

/-- The header of a sequence of bytes, each byte looked up by its index.  There
is no answer, not even a refusal, if an index is out of range. -/
def headerIndexed? (bytes : Bytes) : Option (Except Fault Header) :=
  if bytes.length < headerLength then
    some (.error (.shorterThanHeader bytes.length))
  else do
    let version ← bytes.indexed? 0 2
    let keyType ← bytes.indexed? 2 2
    let teeType ← bytes.indexed? 4 4
    some (.ok ⟨littleEndian version, littleEndian keyType,
      littleEndian teeType⟩)

/-- The report data in a sequence of bytes, each byte looked up by its index.
There is no answer, not even a refusal, if an index is out of range or another
number of bytes is looked up than report data has. -/
def extractIndexed? (bytes : Bytes) :
    Option (Except Fault ReportData) := do
  match ← headerIndexed? bytes with
  | .error fault => some (.error fault)
  | .ok header =>
      if header.teeType ≠ tdxType then
        some (.error (.notTdx header.teeType))
      else match reportDataOffset header.version with
        | .error fault => some (.error fault)
        | .ok offset =>
            if offset + ReportData.width ≤ bytes.length then do
              let field ← bytes.indexed? offset ReportData.width
              let attested ← (ReportData.ofBytes field).toOption
              some (.ok attested)
            else
              some (.error (.truncated bytes.length
                (offset + ReportData.width)))

theorem headerIndexed?_eq (bytes : Bytes) :
    headerIndexed? bytes = some (readHeader bytes) := by
  unfold headerIndexed? readHeader headerLength
  split
  · rfl
  · rw [indexed?_eq_slice (by omega), indexed?_eq_slice (by omega),
      indexed?_eq_slice (by omega)]
    rfl

/-- No index is out of range. -/
theorem extractIndexed?_eq (bytes : Bytes) :
    extractIndexed? bytes = some (extractReportData bytes) := by
  unfold extractIndexed? extractReportData
  rw [headerIndexed?_eq, Option.bind_eq_bind, Option.bind_some]
  cases readHeader bytes with
  | error fault => rfl
  | ok header =>
      dsimp only
      split
      · rfl
      cases reportDataOffset header.version with
      | error fault => rfl
      | ok offset =>
          dsimp only
          split
          · next fits =>
              have isField : (slice offset ReportData.width bytes).length =
                  64 := length_slice fits
              rw [indexed?_eq_slice fits, Option.bind_eq_bind,
                Option.bind_some, ReportData.ofBytes, dif_pos isField]
              rfl
          · rfl

/-! ## Replacing and changing -/

/-- The positions that report data at an offset is read by: those of the
version, of the environment and of the report data. -/
def IsObserved (offset index : Nat) : Prop :=
  index < 2 ∨ 4 ≤ index ∧ index < 8 ∨ offset ≤ index ∧ index < offset + 64

/-- The bytes at the observed positions decide on the report data. -/
theorem extract_of_agree {others : Bytes}
    (laidOut : LaidOut bytes version offset)
    (stands : StandsAt offset attested.bytes bytes)
    (agree : ∀ index, IsObserved offset index →
      others[index]? = bytes[index]?) :
    extractReportData others = .ok attested := by
  have width := attested.length_bytes
  have nonempty : attested.bytes ≠ [] := by
    rintro isEmpty
    rw [isEmpty] at width
    cases width
  have otherStands : StandsAt offset attested.bytes others := by
    apply stands.of_agree
    intro index inFront behind
    exact agree index (.inr (.inr ⟨inFront, by omega⟩))
  refine extractReportData_eq_ok_iff.mpr
    ⟨version, offset, ⟨laidOut.layout, ?_, ?_⟩, otherStands⟩
  · apply laidOut.numbers.of_agree
    intro index isNumber
    apply agree
    rcases isNumber with ofVersion | ofEnvironment
    · exact .inl ofVersion
    · exact .inr (.inl ofEnvironment)
  · have fits := otherStands.fits nonempty
    omega

/-- Report data that is written in the place of other report data is read. -/
theorem extract_overwrite (laidOut : LaidOut bytes version offset)
    (reportData : ReportData) :
    extractReportData (overwrite offset reportData.bytes bytes) =
      .ok reportData := by
  have width := reportData.length_bytes
  have fits := laidOut.fits
  have behind : 48 ≤ offset := laidOut.layout.bounds.1
  refine extractReportData_eq_ok_iff.mpr
    ⟨version, offset, ⟨laidOut.layout, ?_, ?_⟩, ?_⟩
  · apply laidOut.numbers.of_agree
    intro index isNumber
    exact getElem?_overwrite_of_lt (by omega) (by omega)
  · rw [length_overwrite (by omega)]
    exact fits
  · exact standsAt_overwrite (by omega)

/-- A quote that ends before its report data does is refused. -/
theorem extract_take (laidOut : LaidOut bytes version offset) {length : Nat}
    (ends : length < offset + 64) :
    extractReportData (bytes.take length) =
      .error (if length < 48 then .shorterThanHeader length
        else .truncated length (offset + 64)) := by
  have fits := laidOut.fits
  have isLength : (bytes.take length).length = length := by
    rw [List.length_take]
    omega
  unfold extractReportData
  by_cases short : length < 48
  · have noHeader : readHeader (bytes.take length) =
        .error (.shorterThanHeader length) := by
      rw [readHeader, isLength, headerLength, if_pos short]
    simp only [noHeader, short, if_true]
  · have numbers : HasNumbers (bytes.take length) version := by
      apply laidOut.numbers.of_agree
      intro index isNumber
      exact List.getElem?_take_of_lt (by omega)
    have isHeader := numbers.readHeader
      (by rw [isLength]; exact Nat.not_lt.mp short) laidOut.layout.bounds.2
    have located := reportDataOffset_eq_ok_iff.mpr laidOut.layout
    have noRoom : ¬offset + ReportData.width ≤ length := Nat.not_le.mpr ends
    simp only [isHeader, located, isLength, dif_neg noRoom, ne_eq,
      not_true_eq_false, if_false, short]
    rfl

/-! ## Bare quotes -/

/-- A bare quote of an unknown version is refused for its version. -/
theorem reportData_bare_of_error {fault : Fault}
    (unknown : reportDataOffset version = .error fault)
    (small : version < capacity 2) (reportData : ReportData) :
    (bare version reportData).reportData = .error fault := by
  have isBare : (bare version reportData).bytes =
      overwrite 568 reportData.bytes (frame version 568) := by
    simp only [bare, unknown, frame]
    rfl
  have isHeader := readHeader_frame small
    (by decide : headerLength ≤ 568) reportData
  rw [Quote.reportData, isBare, extractReportData]
  simp only [isHeader, unknown, ne_eq, not_true_eq_false, if_false]

theorem reportDataOffset_of_unknown (isOther : version ≠ 4 ∧ version ≠ 5) :
    reportDataOffset version = .error (.unsupportedVersion version) := by
  unfold reportDataOffset
  split
  · exact absurd rfl isOther.1
  · exact absurd rfl isOther.2
  · rfl

/-! ## The lens -/

/-- A quote carries report data at an offset as a part that can be replaced. -/
structure Carries (bytes : Bytes) (offset : Nat) (attested : ReportData) :
    Prop where
  stands : StandsAt offset attested.bytes bytes
  /-- What is written is read. -/
  replaced : ∀ reportData : ReportData,
    extractReportData (overwrite offset reportData.bytes bytes) =
      .ok reportData
  /-- Of two things written one after the other the second one is left. -/
  rewritten : ∀ first second : ReportData,
    overwrite offset second.bytes (overwrite offset first.bytes bytes) =
      overwrite offset second.bytes bytes
  /-- Writing what is read changes nothing. -/
  kept : overwrite offset attested.bytes bytes = bytes
  /-- Nothing but the observed positions makes a difference. -/
  unobserved : ∀ others : Bytes,
    (∀ index, IsObserved offset index → others[index]? = bytes[index]?) →
      extractReportData others = .ok attested
  /-- Nor does what follows the quote. -/
  extended : ∀ more, extractReportData (bytes ++ more) = .ok attested
  /-- A quote that ends before its report data does is refused. -/
  truncated : ∀ length, length < offset + 64 →
    extractReportData (bytes.take length) =
      .error (if length < 48 then .shorterThanHeader length
        else .truncated length (offset + 64))

theorem LaidOut.carries (laidOut : LaidOut bytes version offset)
    (stands : StandsAt offset attested.bytes bytes) :
    Carries bytes offset attested where
  stands := stands
  replaced := extract_overwrite laidOut
  rewritten first second := by
    have fits := laidOut.fits
    have sameWidth : second.bytes.length = first.bytes.length := by
      rw [first.length_bytes, second.length_bytes]
    exact overwrite_overwrite sameWidth (by omega)
  kept := stands.overwrite_eq_self
  unobserved _ agree := extract_of_agree laidOut stands agree
  extended more := by
    have fits := laidOut.fits
    have behind : 48 ≤ offset := laidOut.layout.bounds.1
    apply extract_of_agree laidOut stands
    intro index isObserved
    unfold IsObserved at isObserved
    exact List.getElem?_append_left (by omega)
  truncated _ ends := extract_take laidOut ends

/-- Report data is read from a sequence of bytes, without any index out of
range, exactly if it is laid out as a TDX quote of a known version, with room
for report data; all else is refused.  What is read is a part of the quote: it
can be replaced, nothing but it and the numbers of the version and of the
environment makes a difference, and no quote does without its last byte.  Bare
quotes carry the report data that they were made over, if their version is
known, and are refused otherwise. -/
theorem extraction_is_lens :
    (∀ bytes, extractIndexed? bytes = some (extractReportData bytes)) ∧
    (∀ bytes, (∃ attested, extractReportData bytes = .ok attested) ↔
      ∃ version offset, LaidOut bytes version offset) ∧
    (∀ bytes attested, extractReportData bytes = .ok attested →
      ∃ version offset, LaidOut bytes version offset ∧
        Carries bytes offset attested) ∧
    ∀ (version : UInt16) (reportData : ReportData),
      (bare version.toNat reportData).reportData =
        if version = 4 ∨ version = 5 then .ok reportData
        else .error (.unsupportedVersion version.toNat) := by
  refine ⟨extractIndexed?_eq, fun _ => extracts_iff, ?_, ?_⟩
  · intro bytes attested extracted
    obtain ⟨version, offset, laidOut, stands⟩ :=
      extractReportData_eq_ok_iff.mp extracted
    exact ⟨version, offset, laidOut, laidOut.carries stands⟩
  · intro version reportData
    split
    · next isKnown =>
        rcases isKnown with rfl | rfl
        · exact reportData_bare (by rfl) reportData
        · exact reportData_bare (by rfl) reportData
    · next isUnknown =>
        rw [not_or] at isUnknown
        apply reportData_bare_of_error
        · apply reportDataOffset_of_unknown
          constructor
          · intro isFour
            exact isUnknown.1 (UInt16.toNat_inj.mp isFour)
          · intro isFive
            exact isUnknown.2 (UInt16.toNat_inj.mp isFive)
        · exact version.toNat_lt

/-- Report data of zeros. -/
def zeros : ReportData := ⟨List.replicate 64 0, List.length_replicate⟩

/-- A bare quote of version 5 is laid out, and carries the report data that it
was made over. -/
theorem extraction_is_lens_bare :
    extractReportData (bare 5 zeros).bytes = .ok zeros ∧
    ∃ version offset, LaidOut (bare 5 zeros).bytes version offset ∧
      Carries (bare 5 zeros).bytes offset zeros := by
  obtain ⟨-, -, carries, bareQuotes⟩ := extraction_is_lens
  have extracted : extractReportData (bare 5 zeros).bytes = .ok zeros :=
    bareQuotes 5 zeros
  exact ⟨extracted, carries _ zeros extracted⟩

end Quote
end ReportBinding
