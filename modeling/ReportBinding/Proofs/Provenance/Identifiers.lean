import ReportBinding.Proofs.Provenance.Binding
import ReportBinding.Proofs.Text.Blank

/-!
# Texts of identifiers

File digests and report data are read from texts of a fixed number of
hexadecimal digits and written in lowercase digits, commit ids are kept as they
are.  Each reader accepts its own texts and no others, and reads back what is
written: `identifiers_invert_printers`.
-/

namespace ReportBinding

/-! ## Digits of a fixed number -/

/-- A lowercase hexadecimal digit. -/
def Hex.IsLowercase (character : Char) : Prop :=
  ('0' ≤ character ∧ character ≤ '9') ∨ ('a' ≤ character ∧ character ≤ 'f')

/-- Characters are a fixed number of hexadecimal digits of either case. -/
def Hex.HasDigits (count : Nat) (characters : List Char) : Prop :=
  characters.length = count ∧
    ∀ character ∈ characters, IsLowercase character ∨
      ('A' ≤ character ∧ character ≤ 'F')

theorem Hex.isLowercase_iff (character : Char) :
    IsLowercase character ↔ isCommitDigit character = true := by
  simp [IsLowercase, isCommitDigit]

theorem Hex.isDigit_iff (character : Char) :
    (IsLowercase character ∨ ('A' ≤ character ∧ character ≤ 'F')) ↔
      isCommitDigit character.toLower = true := by
  rw [isCommitDigit_toLower_iff, isLowercase_iff, isCommitDigit_iff]
  simp only [Char.le_def, UInt32.le_iff_toNat_le]
  change _ ∨ (0x41 ≤ character.toNat ∧ character.toNat ≤ 0x46) ↔ _
  omega

/-- The digits of a fixed number are those that spell bytes of a fixed
number. -/
theorem Hex.hasDigits_iff (width : Nat) (characters : List Char) :
    HasDigits (2 * width) characters ↔
      ∃ bytes : Bytes, bytes.length = width ∧ Spells bytes characters := by
  constructor
  · rintro ⟨length, areDigits⟩
    obtain ⟨bytes, spells⟩ := @exists_spells characters (by omega)
      fun character isMember =>
        (isDigit_iff character).mp (areDigits character isMember)
    have twice := spells.length_digits
    exact ⟨bytes, by omega, spells⟩
  · rintro ⟨bytes, rfl, spells⟩
    exact ⟨spells.length_digits, fun character isMember =>
      (isDigit_iff character).mpr (spells.areDigits character isMember)⟩

/-! ## Readers and writers -/

/-- A reader and a writer of values in hexadecimal digits.  Of a text, `core` is
what has to be digits. -/
structure Hex.IsCodec {Value Fault : Type} (count : Nat)
    (core : List Char → List Char) (read : String → Except Fault Value)
    (write : Value → String) : Prop where
  /-- Nothing but digits of the right number is read, and they always are. -/
  accepts : ∀ text,
    (∃ value, read text = .ok value) ↔ HasDigits count (core text.toList)
  /-- What is read is written with the same digits in lowercase. -/
  lowers : ∀ text value, read text = .ok value →
    (write value).toList = (core text.toList).map Char.toLower
  readsBack : ∀ value, read (write value) = .ok value
  injective : Function.Injective write
  length : ∀ value, (write value).length = count
  areLowercase : ∀ value, ∀ character ∈ (write value).toList,
    IsLowercase character

/-- Values that are bytes of a fixed number are read from the texts that spell
these bytes. -/
structure Hex.ReadsBytes {Value Fault : Type} (width : Nat)
    (core : List Char → List Char) (read : String → Except Fault Value)
    (bytes : Value → Bytes) : Prop where
  length_bytes : ∀ value, (bytes value).length = width
  exists_value : ∀ content, content.length = width →
    ∃ value, bytes value = content
  core_written : ∀ content, core (encodeChars content) = encodeChars content
  read_eq_ok_iff : ∀ text value, read text = .ok value ↔
    Spells (bytes value) (core text.toList)

theorem Hex.ReadsBytes.read_encode {Value Fault : Type} {width : Nat}
    {core : List Char → List Char} {read : String → Except Fault Value}
    {bytes : Value → Bytes} (reads : ReadsBytes width core read bytes)
    (value : Value) : read (encode (bytes value)) = .ok value := by
  rw [reads.read_eq_ok_iff, toList_encode, reads.core_written]
  exact spells_encodeChars (bytes value)

/-- Such values are read and written in twice as many digits. -/
theorem Hex.ReadsBytes.isCodec {Value Fault : Type} {width : Nat}
    {core : List Char → List Char} {read : String → Except Fault Value}
    {bytes : Value → Bytes} (reads : ReadsBytes width core read bytes) :
    IsCodec (2 * width) core read fun value => encode (bytes value) where
  accepts text := by
    rw [hasDigits_iff]
    constructor
    · rintro ⟨value, isRead⟩
      exact ⟨bytes value, reads.length_bytes value,
        (reads.read_eq_ok_iff text value).mp isRead⟩
    · rintro ⟨content, length, spells⟩
      obtain ⟨value, rfl⟩ := reads.exists_value content length
      exact ⟨value, (reads.read_eq_ok_iff text value).mpr spells⟩
  lowers text value isRead := by
    rw [toList_encode]
    exact ((reads.read_eq_ok_iff text value).mp isRead).symm
  readsBack := reads.read_encode
  injective first second sameText := by
    have sameValue := congrArg read sameText
    dsimp only at sameValue
    rw [reads.read_encode, reads.read_encode] at sameValue
    exact Except.ok.inj sameValue
  length value := by
    rw [← String.length_toList, toList_encode, length_encodeChars,
      reads.length_bytes]
  areLowercase value character isMember := by
    rw [toList_encode] at isMember
    exact (isLowercase_iff character).mpr
      (isCommitDigit_of_mem_encodeChars _ _ isMember)

/-! ## File digests -/

namespace FileDigest

/-- Bytes of the right number are those of a digest. -/
theorem ofBytes_eq_ok_iff (content : Bytes) (digest : FileDigest) :
    ofBytes content = .ok digest ↔ content = digest.bytes := by
  unfold ofBytes
  split
  · simp [FileDigest.ext_iff]
  · next wrongLength =>
      simp only [reduceCtorEq, false_iff]
      rintro rfl
      exact wrongLength digest.length_bytes

/-- A file digest is read from the texts that spell its bytes. -/
theorem ofHex_eq_ok_iff (text : String) (digest : FileDigest) :
    ofHex text = .ok digest ↔ Hex.Spells digest.bytes text.toList := by
  rw [← Hex.decode_eq_ok_iff, ofHex]
  cases Hex.decode text with
  | error fault => simp
  | ok content => simp [ofBytes_eq_ok_iff]

theorem readsBytes : Hex.ReadsBytes 32 id ofHex bytes where
  length_bytes := length_bytes
  exists_value content length := ⟨⟨content, length⟩, rfl⟩
  core_written _ := rfl
  read_eq_ok_iff := ofHex_eq_ok_iff

theorem ofHex_toHex (digest : FileDigest) :
    ofHex digest.toHex = .ok digest :=
  readsBytes.isCodec.readsBack digest

end FileDigest

/-! ## Report data -/

namespace ReportData

/-- What is left of a text when the blanks around it and then one mark `0x` are
dropped. -/
def digitsOf (characters : List Char) : List Char :=
  Text.dropHexMark (Text.trimmed characters)

/-- Bytes of the right number are those of report data. -/
theorem ofBytes_eq_ok_iff (content : Bytes) (reportData : ReportData) :
    ofBytes content = .ok reportData ↔ content = reportData.bytes := by
  unfold ofBytes
  split
  · simp [ReportData.ext_iff]
  · next wrongLength =>
      simp only [reduceCtorEq, false_iff]
      rintro rfl
      exact wrongLength reportData.length_bytes

/-- Report data is read from the texts whose digits spell its bytes. -/
theorem ofHex_eq_ok_iff (text : String) (reportData : ReportData) :
    ofHex text = .ok reportData ↔
      Hex.Spells reportData.bytes (digitsOf text.toList) := by
  have digits := Hex.decode_eq_ok_iff
    (String.ofList (digitsOf text.toList)) reportData.bytes
  rw [String.toList_ofList] at digits
  rw [← digits]
  simp only [ofHex, digitsOf]
  cases Hex.decode (String.ofList
      (Text.dropHexMark (Text.trimmed text.toList))) with
  | error fault => simp
  | ok content => simp [ofBytes_eq_ok_iff]

theorem readsBytes : Hex.ReadsBytes 64 digitsOf ofHex bytes where
  length_bytes := length_bytes
  exists_value content length := ⟨⟨content, length⟩, rfl⟩
  core_written content := by
    obtain ⟨trimmed, noMark, -⟩ := Hex.plain_encodeChars content
    rw [digitsOf, trimmed, noMark]
  read_eq_ok_iff := ofHex_eq_ok_iff

theorem ofHex_toHex (reportData : ReportData) :
    ofHex reportData.toHex = .ok reportData :=
  readsBytes.isCodec.readsBack reportData

/-- Blanks may stand around the digits, and one mark in front of them, and
nothing else. -/
theorem hasDigits_digitsOf_iff (characters : List Char) :
    Hex.HasDigits 128 (digitsOf characters) ↔
      ∃ marked digits, Text.Surrounds marked characters ∧
        (marked = digits ∨ marked = '0' :: 'x' :: digits) ∧
          Hex.HasDigits 128 digits := by
  constructor
  · intro hasDigits
    refine ⟨Text.trimmed characters, digitsOf characters,
      Text.surrounds_trimmed characters, ?_, hasDigits⟩
    unfold digitsOf
    generalize Text.trimmed characters = marked
    unfold Text.dropHexMark
    split
    · exact .inr rfl
    · exact .inl rfl
  · rintro ⟨marked, digits, surrounds, isMarked, hasDigits⟩
    obtain ⟨bytes, -, spells⟩ := (Hex.hasDigits_iff 64 digits).mp hasDigits
    have spellsMarked : Hex.SpellsMarked bytes marked := by
      rcases isMarked with rfl | rfl
      · exact .bare spells
      · exact .marked spells
    have isCore : digitsOf characters = digits := by
      rw [digitsOf, surrounds.trimmed_eq, spellsMarked.trimmed_eq]
      rcases isMarked with rfl | rfl
      · exact spells.plain.2.1
      · rfl
    rwa [isCore]

end ReportData

/-! ## Revision ids -/

namespace RevisionId

theorem parse_text (id : RevisionId) : parse id.text = .ok id := by
  obtain ⟨full, digits⟩ := id.isCommitId
  have size : id.text.utf8ByteSize = id.text.toList.length :=
    utf8ByteSize_eq_length id.text (List.all_eq_true.mp digits)
  have notEmpty : id.text.isEmpty = false := by
    rw [String.isEmpty_eq_false_iff]
    intro isEmpty
    rw [isEmpty] at full
    rcases full with none | none <;> cases none
  rw [parse, notEmpty, if_neg Bool.false_ne_true,
    dif_pos (by rw [size]; exact full), dif_pos digits]

/-- An id is read from its own text only. -/
theorem parse_eq_ok_iff (text : String) (id : RevisionId) :
    parse text = .ok id ↔ id.text = text := by
  constructor
  · intro parses
    unfold parse at parses
    split at parses
    · cases parses
    · split at parses
      · split at parses
        · cases parses
          rfl
        · cases parses
      · cases parses
  · intro isText
    rw [← isText]
    exact id.parse_text

theorem exists_parse_iff (text : String) :
    (∃ id, parse text = .ok id) ↔ IsCommitId text.toList := by
  constructor
  · rintro ⟨id, isParsed⟩
    rw [← (parse_eq_ok_iff text id).mp isParsed]
    exact id.isCommitId
  · intro isCommitId
    exact ⟨⟨text, isCommitId⟩, (parse_eq_ok_iff _ _).mpr rfl⟩

end RevisionId

/-! ## All identifiers -/

/-- Digests are read from 64 digits, report data from 128 digits with perhaps a
mark and blanks around them, and both are written in lowercase; revision ids are
40 or 64 lowercase digits and are kept as they are. -/
theorem identifiers_invert_printers :
    Hex.IsCodec 64 id FileDigest.ofHex FileDigest.toHex ∧
      Hex.IsCodec 128
        (fun characters => Text.dropHexMark (Text.trimmed characters))
        ReportData.ofHex ReportData.toHex ∧
      (∀ text, (∃ reportData, ReportData.ofHex text = .ok reportData) ↔
        ∃ marked digits, Text.Surrounds marked text.toList ∧
          (marked = digits ∨ marked = '0' :: 'x' :: digits) ∧
            Hex.HasDigits 128 digits) ∧
      (∀ text, (∃ id, RevisionId.parse text = .ok id) ↔
        (text.length = 40 ∨ text.length = 64) ∧
          ∀ character ∈ text.toList, Hex.IsLowercase character) ∧
      ∀ text id, RevisionId.parse text = .ok id → id.text = text := by
  have digests := FileDigest.readsBytes.isCodec
  have reportData := ReportData.readsBytes.isCodec
  refine ⟨digests, reportData, ?_, ?_, ?_⟩
  · intro text
    rw [reportData.accepts]
    exact ReportData.hasDigits_digitsOf_iff text.toList
  · intro text
    rw [RevisionId.exists_parse_iff, IsCommitId, String.length_toList,
      List.all_eq_true]
    simp only [Hex.isLowercase_iff]
  · intro text id isParsed
    exact (RevisionId.parse_eq_ok_iff text id).mp isParsed

/-- Some uppercase digits behind a mark, between blanks. -/
def shouted (mark : List Char) (count : Nat) : String :=
  String.ofList (['\u2003'] ++ (mark ++ List.replicate count 'A') ++ ['\n'])

theorem trimmed_shouted (mark : List Char) (count : Nat)
    (noBlank : mark.any Text.isBlank = false) :
    Text.trimmed (shouted mark count).toList =
      mark ++ List.replicate count 'A' := by
  rw [shouted, String.toList_ofList]
  apply Text.stripped_surrounded
  · exact List.forall_mem_singleton.mpr rfl
  · intro character isMember
    rcases List.mem_append.mp isMember with inMark | isDigit
    · exact Bool.eq_false_iff.mpr
        (List.any_eq_false.mp noBlank character inMark)
    · rw [List.eq_of_mem_replicate isDigit]
      rfl
  · exact List.forall_mem_singleton.mpr rfl

/-- Report data in uppercase is read behind one mark and written in lowercase,
and is refused behind two marks; a revision id is not read from it. -/
theorem identifiers_invert_shouted :
    (∃ reportData, ReportData.ofHex (shouted ['0', 'x'] 128) = .ok reportData ∧
      reportData.toHex.toList = List.replicate 128 'a') ∧
      (¬∃ reportData,
        ReportData.ofHex (shouted ['0', 'x', '0', 'x'] 128) = .ok reportData) ∧
        ¬∃ id, RevisionId.parse (shouted [] 40) = .ok id := by
  obtain ⟨-, codec, -, revisions, -⟩ := identifiers_invert_printers
  have once := trimmed_shouted ['0', 'x'] 128 rfl
  have twice := trimmed_shouted ['0', 'x', '0', 'x'] 128 rfl
  refine ⟨?_, ?_, ?_⟩
  · obtain ⟨reportData, isRead⟩ :=
      (codec.accepts (shouted ['0', 'x'] 128)).mpr (by
        rw [once]
        refine ⟨rfl, fun character isMember => ?_⟩
        change character ∈ List.replicate 128 'A' at isMember
        rw [List.eq_of_mem_replicate isMember]
        exact .inr (by decide))
    refine ⟨reportData, isRead, ?_⟩
    rw [codec.lowers _ _ isRead, once]
    rfl
  · rw [codec.accepts, twice]
    rintro ⟨length, -⟩
    exact absurd length (by decide +kernel)
  · rw [revisions]
    rintro ⟨length, -⟩
    exact absurd length (by decide +kernel)

end ReportBinding
