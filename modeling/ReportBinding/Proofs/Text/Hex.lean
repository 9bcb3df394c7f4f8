import ReportBinding.Proofs.Text.Blank
import ReportBinding.Proofs.Text.Utf8
import ReportBinding.Provenance.RevisionId
import ReportBinding.Text.Hex

/-!
# Hexadecimal text and its bytes

Bytes are spelled by two digits each, of either case, and the digits are read
back to these bytes: `Hex.Spells.decode`.  Bytes are written in lowercase
digits, so writing loses nothing: `Hex.decode_encode`.  The digits take one byte
each in UTF-8, so texts made of them are compared byte by byte.
-/

namespace ReportBinding

/-! ## Digits -/

theorem toNat_toLower (character : Char) :
    character.toLower.toNat =
      if 0x41 ≤ character.toNat ∧ character.toNat ≤ 0x5A then
        character.toNat + 0x20
      else character.toNat := by
  have range : (character.val ≥ 'A'.val ∧ character.val ≤ 'Z'.val) ↔
      (0x41 ≤ character.toNat ∧ character.toNat ≤ 0x5A) := by
    simp only [ge_iff_le, UInt32.le_iff_toNat_le]
    exact Iff.rfl
  unfold Char.toLower
  split
  · next isUpper =>
      rw [if_pos (range.mp isUpper)]
      have bound := (range.mp isUpper).2
      have sum : (character.val + ('a'.val - 'A'.val)).toNat =
          (character.val.toNat + 0x20) % 2 ^ 32 := UInt32.toNat_add _ _
      unfold Char.toNat at bound ⊢
      rw [sum]
      omega
  · next isOther => rw [if_neg (mt range.mpr isOther)]

theorem toNat_ofNat_of_ascii {code : Nat} (isAscii : code < 128) :
    (Char.ofNat code).toNat = code := by
  have isValid : code.isValidChar := Or.inl (by omega)
  rw [Char.ofNat, dif_pos isValid]
  rfl

theorem isCommitDigit_iff (character : Char) :
    isCommitDigit character = true ↔
      (0x30 ≤ character.toNat ∧ character.toNat ≤ 0x39) ∨
        (0x61 ≤ character.toNat ∧ character.toNat ≤ 0x66) := by
  simp only [isCommitDigit, Bool.or_eq_true, Bool.and_eq_true,
    decide_eq_true_eq, Char.le_def, UInt32.le_iff_toNat_le]
  exact Iff.rfl

/-- The digits of either case. -/
theorem isCommitDigit_toLower_iff (character : Char) :
    isCommitDigit character.toLower = true ↔
      (0x30 ≤ character.toNat ∧ character.toNat ≤ 0x39) ∨
        (0x41 ≤ character.toNat ∧ character.toNat ≤ 0x46) ∨
          (0x61 ≤ character.toNat ∧ character.toNat ≤ 0x66) := by
  rw [isCommitDigit_iff, toNat_toLower]
  split <;> omega

theorem toLower_of_isCommitDigit (character : Char)
    (isDigit : isCommitDigit character = true) :
    character.toLower = character := by
  rw [isCommitDigit_iff] at isDigit
  have same : character.toLower.toNat = character.toNat := by
    rw [toNat_toLower, if_neg (by omega)]
  rw [← Char.ofNat_toNat character.toLower, same, Char.ofNat_toNat]

namespace Text

/-- Digits are neither blanks nor quotes nor part of a mark `0x` beyond its
first character. -/
theorem plain_of_digit (character : Char)
    (isDigit : isCommitDigit character.toLower = true) :
    isBlank character = false ∧ character ≠ 'x' ∧ character ≠ '"' := by
  rw [isCommitDigit_toLower_iff] at isDigit
  refine ⟨?_, ?_, ?_⟩
  · simp only [isBlank, Bool.or_eq_false_iff, Bool.and_eq_false_iff,
      decide_eq_false_iff_not, beq_eq_false_iff_ne]
    omega
  · intro isMark
    have toNat_mark : 'x'.toNat = 0x78 := rfl
    rw [isMark, toNat_mark] at isDigit
    omega
  · intro isQuote
    have toNat_quote : '"'.toNat = 0x22 := rfl
    rw [isQuote, toNat_quote] at isDigit
    omega

/-- Digits of commit ids are neither blanks nor part of a mark `0x` beyond its
first character. -/
theorem plain_of_isCommitDigit (character : Char)
    (isDigit : isCommitDigit character = true) :
    isBlank character = false ∧ character ≠ 'x' := by
  rw [← toLower_of_isCommitDigit character isDigit] at isDigit
  obtain ⟨notBlank, notMark, -⟩ := plain_of_digit character isDigit
  exact ⟨notBlank, notMark⟩

end Text

namespace Hex

theorem isCommitDigit_digit (value : Nat) (small : value < 16) :
    isCommitDigit (digit value) = true := by
  have all : ∀ value : Fin 16, isCommitDigit (digit value) = true := by
    decide
  exact all ⟨value, small⟩

theorem exists_digit (character : Char)
    (isDigit : isCommitDigit character = true) :
    ∃ value, value < 16 ∧ character = digit value := by
  rw [isCommitDigit_iff] at isDigit
  rcases isDigit with ⟨low, high⟩ | ⟨low, high⟩
  · refine ⟨character.toNat - 0x30, by omega, ?_⟩
    rw [digit, if_pos (by omega), Nat.add_sub_cancel' low, Char.ofNat_toNat]
  · refine ⟨character.toNat - 0x57, by omega, ?_⟩
    have above : 0x57 ≤ character.toNat := by omega
    rw [digit, if_neg (by omega), Nat.add_sub_cancel' above,
      Char.ofNat_toNat]

/-- A digit of either case has the value of the lowercase digit. -/
theorem digitValue?_of_toLower {character : Char} {value : Nat}
    (small : value < 16) (isLower : character.toLower = digit value) :
    digitValue? (UInt8.ofNat character.toNat) = some value := by
  have lower : ∀ value : Fin 16,
      digitValue? (UInt8.ofNat (digit value).toNat) = some value.val := by
    decide
  have upper : ∀ value : Fin 16, 0x41 ≤ (digit value).toNat - 0x20 →
      digitValue? (UInt8.ofNat ((digit value).toNat - 0x20)) =
        some value.val := by
    decide
  have sameCode := congrArg Char.toNat isLower
  rw [toNat_toLower] at sameCode
  split at sameCode
  · next isUpper =>
      have code : character.toNat = (digit value).toNat - 0x20 := by omega
      rw [code] at isUpper ⊢
      exact upper ⟨value, small⟩ isUpper.1
  · rw [sameCode]
    exact lower ⟨value, small⟩

theorem halves_lt (byte : UInt8) :
    byte.toNat / 16 < 16 ∧ byte.toNat % 16 < 16 := by
  have bound := byte.toNat_lt
  omega

/-- The text of bytes holds lowercase digits only. -/
theorem isCommitDigit_of_mem_encodeChars (bytes : Bytes) (character : Char)
    (isMember : character ∈ encodeChars bytes) :
    isCommitDigit character = true := by
  obtain ⟨byte, _, inByte⟩ := List.mem_flatMap.mp isMember
  obtain ⟨upper, lower⟩ := halves_lt byte
  simp only [encodeByte, List.mem_cons, List.not_mem_nil, or_false] at inByte
  rcases inByte with rfl | rfl
  · exact isCommitDigit_digit _ upper
  · exact isCommitDigit_digit _ lower

/-! ## Spellings -/

/-- Digits spell bytes, two digits of either case for each of them. -/
def Spells (bytes : Bytes) (digits : List Char) : Prop :=
  digits.map Char.toLower = encodeChars bytes

/-- Characters spell bytes, with or without a mark `0x` in front. -/
inductive SpellsMarked (bytes : Bytes) : List Char → Prop where
  | bare {digits : List Char} (spells : Spells bytes digits) :
      SpellsMarked bytes digits
  | marked {digits : List Char} (spells : Spells bytes digits) :
      SpellsMarked bytes ('0' :: 'x' :: digits)

theorem spells_encodeChars (bytes : Bytes) :
    Spells bytes (encodeChars bytes) := by
  rw [Spells, List.map_congr_left (g := id), List.map_id]
  intro character isMember
  exact toLower_of_isCommitDigit character
    (isCommitDigit_of_mem_encodeChars bytes character isMember)

namespace Spells

variable {bytes : Bytes} {digits : List Char}

theorem length_digits (spells : Spells bytes digits) :
    digits.length = 2 * bytes.length := by
  rw [← length_encodeChars, ← spells, List.length_map]

theorem areDigits (spells : Spells bytes digits) :
    ∀ character ∈ digits, isCommitDigit character.toLower = true := by
  intro character isMember
  apply isCommitDigit_of_mem_encodeChars bytes
  rw [← spells]
  exact List.mem_map_of_mem isMember

/-- Digits have neither blanks at their ends nor a mark in front. -/
theorem plain (spells : Spells bytes digits) :
    Text.trimmed digits = digits ∧ Text.dropHexMark digits = digits ∧
      Text.dropHexMarks digits = digits := by
  have isPlain (character : Char) (isMember : character ∈ digits) :=
    Text.plain_of_digit character (spells.areDigits character isMember)
  refine ⟨?_, ?_, ?_⟩
  · exact Text.trimmed_eq_self fun character isMember =>
      (isPlain character isMember).1
  · exact Text.dropHexMark_eq_self fun character isMember =>
      (isPlain character isMember).2.1
  · exact Text.dropHexMarks_eq_self fun character isMember =>
      (isPlain character isMember).2.1

/-- The UTF-8 form of digits has one byte for each of them. -/
theorem utf8_digits (spells : Spells bytes digits) :
    Text.Utf8.encode (String.ofList digits) =
      digits.map fun character => UInt8.ofNat character.toNat := by
  apply Text.Utf8.encode_of_ascii
  intro character isMember
  have range := (isCommitDigit_toLower_iff character).mp
    (spells.areDigits character isMember)
  omega

/-- Digit pairs are read back, at whatever position they stand. -/
theorem decodePairs (spells : Spells bytes digits) (position : Nat) :
    Hex.decodePairs position
      (digits.map fun character => UInt8.ofNat character.toNat) =
        .ok bytes := by
  induction bytes generalizing digits position with
  | nil =>
      rw [List.map_eq_nil_iff.mp spells]
      rfl
  | cons byte bytes inductionHypothesis =>
      obtain ⟨upper, lower⟩ := halves_lt byte
      obtain ⟨high, others, rfl, isHigh, areOthers⟩ :=
        List.map_eq_cons_iff.mp spells
      obtain ⟨low, rest, rfl, isLow, areRest⟩ :=
        List.map_eq_cons_iff.mp areOthers
      have rebuilt : byte.toNat / 16 * 16 + byte.toNat % 16 = byte.toNat := by
        omega
      have further := @inductionHypothesis rest areRest (position + 2)
      rw [List.map_cons, List.map_cons, Hex.decodePairs, readDigit,
        readDigit, digitValue?_of_toLower upper isHigh,
        digitValue?_of_toLower lower isLow, further]
      simp only [bind, Except.bind, rebuilt, UInt8.ofNat_toNat]

/-- Bytes are read back from any digits that spell them. -/
theorem decode (spells : Spells bytes digits) :
    Hex.decode (String.ofList digits) = .ok bytes := by
  have even : (2 * bytes.length) % 2 = 0 := by omega
  rw [Hex.decode, spells.utf8_digits, decodeAscii, List.length_map,
    spells.length_digits, if_pos even, spells.decodePairs]

end Spells

/-- A byte that has the value of a digit is a digit of either case. -/
theorem toLower_of_digitValue? {byte : UInt8} {value : Nat}
    (isDigit : digitValue? byte = some value) :
    byte.toNat < 128 ∧ (Char.ofNat byte.toNat).toLower = digit value ∧
      value < 16 := by
  have all : ∀ code : Fin 256, ∀ value ∈ digitValue? (UInt8.ofNat code.val),
      code.val < 128 ∧ (Char.ofNat code.val).toLower = digit value ∧
        value < 16 := by
    decide +kernel
  refine all ⟨byte.toNat, byte.toNat_lt⟩ value ?_
  rwa [UInt8.ofNat_toNat]

theorem encodeByte_ofNat {upper lower : Nat} (upperSmall : upper < 16)
    (lowerSmall : lower < 16) :
    encodeByte (UInt8.ofNat (upper * 16 + lower)) =
      [digit upper, digit lower] := by
  have value : (UInt8.ofNat (upper * 16 + lower)).toNat =
      upper * 16 + lower := by
    rw [UInt8.toNat_ofNat']
    omega
  have upperHalf : (upper * 16 + lower) / 16 = upper := by omega
  have lowerHalf : (upper * 16 + lower) % 16 = lower := by omega
  rw [encodeByte, value, upperHalf, lowerHalf]

/-- Digit pairs that are read spell what is read. -/
theorem spells_of_decodePairs {position : Nat} {digits bytes : Bytes}
    (decoded : decodePairs position digits = .ok bytes) :
    (∀ digit ∈ digits, digit.toNat < 128) ∧
      Spells bytes (digits.map fun digit => Char.ofNat digit.toNat) := by
  match digits with
  | [] =>
      cases decoded
      exact ⟨List.forall_mem_nil _, rfl⟩
  | [_] => cases decoded
  | high :: low :: rest =>
      simp only [decodePairs, readDigit] at decoded
      cases isHigh : digitValue? high with
      | none =>
          rw [isHigh] at decoded
          cases decoded
      | some upper =>
      cases isLow : digitValue? low with
      | none =>
          rw [isHigh, isLow] at decoded
          cases decoded
      | some lower =>
      cases further : decodePairs (position + 2) rest with
      | error fault =>
          rw [isHigh, isLow, further] at decoded
          cases decoded
      | ok others =>
          rw [isHigh, isLow, further] at decoded
          cases decoded
          obtain ⟨areAscii, spells⟩ := spells_of_decodePairs further
          obtain ⟨highAscii, highLower, upperSmall⟩ :=
            toLower_of_digitValue? isHigh
          obtain ⟨lowAscii, lowLower, lowerSmall⟩ :=
            toLower_of_digitValue? isLow
          refine ⟨?_, ?_⟩
          · intro digit isMember
            simp only [List.mem_cons] at isMember
            rcases isMember with rfl | rfl | isMember
            · exact highAscii
            · exact lowAscii
            · exact areAscii digit isMember
          · rw [Spells, encodeChars, List.flatMap_cons,
              encodeByte_ofNat upperSmall lowerSmall, List.map_cons,
              List.map_cons, List.map_cons, List.map_cons, highLower,
              lowLower, spells]
            rfl

/-- A text is read as bytes exactly if its characters spell these bytes. -/
theorem decode_eq_ok_iff (text : String) (bytes : Bytes) :
    Hex.decode text = .ok bytes ↔ Spells bytes text.toList := by
  constructor
  · intro decoded
    unfold Hex.decode decodeAscii at decoded
    split at decoded
    · obtain ⟨areAscii, spells⟩ := spells_of_decodePairs decoded
      have isText : String.ofList ((Text.Utf8.encode text).map
          fun digit => Char.ofNat digit.toNat) = text := by
        apply Text.Utf8.encode_injective
        rw [Text.Utf8.encode_of_ascii]
        · rw [List.map_map, List.map_congr_left (g := id), List.map_id]
          intro digit isMember
          simp only [Function.comp_apply, id_eq,
            toNat_ofNat_of_ascii (areAscii digit isMember), UInt8.ofNat_toNat]
        · intro character isMember
          obtain ⟨digit, isDigit, rfl⟩ := List.mem_map.mp isMember
          rw [toNat_ofNat_of_ascii (areAscii digit isDigit)]
          exact areAscii digit isDigit
      rwa [← isText, String.toList_ofList]
    · cases decoded
  · intro spells
    have decoded := spells.decode
    rwa [String.ofList_toList] at decoded

/-- An even number of digits spells bytes. -/
theorem exists_spells {digits : List Char} (even : digits.length % 2 = 0)
    (areDigits : ∀ character ∈ digits,
      isCommitDigit character.toLower = true) :
    ∃ bytes, Spells bytes digits := by
  match digits, even with
  | [], _ => exact ⟨[], rfl⟩
  | high :: low :: rest, even =>
      obtain ⟨upper, upperSmall, isHigh⟩ :=
        exists_digit _ (areDigits high (by simp))
      obtain ⟨lower, lowerSmall, isLow⟩ :=
        exists_digit _ (areDigits low (by simp))
      obtain ⟨bytes, spells⟩ := @exists_spells rest
        (by simp only [List.length_cons] at even; omega)
        fun character isMember => areDigits character (by simp [isMember])
      have written : encodeChars (UInt8.ofNat (upper * 16 + lower) :: bytes) =
          digit upper :: digit lower :: encodeChars bytes := by
        rw [encodeChars, List.flatMap_cons,
          encodeByte_ofNat upperSmall lowerSmall]
        rfl
      refine ⟨UInt8.ofNat (upper * 16 + lower) :: bytes, ?_⟩
      rw [Spells, written, List.map_cons, List.map_cons, isHigh, isLow,
        spells]

namespace SpellsMarked

variable {bytes : Bytes} {text : List Char}

/-- Characters that spell bytes, with the mark dropped. -/
theorem exists_digits (spells : SpellsMarked bytes text) :
    ∃ digits, Spells bytes digits ∧ Text.dropHexMark text = digits ∧
      Text.dropHexMarks text = digits := by
  cases spells with
  | bare spells => exact ⟨text, spells, spells.plain.2⟩
  | @marked digits spells =>
      exact ⟨digits, spells, rfl, spells.plain.2.2⟩

/-- The same characters do not spell two sequences of bytes. -/
theorem unique {other : Bytes} (spells : SpellsMarked bytes text)
    (spellsOther : SpellsMarked other text) : bytes = other := by
  obtain ⟨_, spelled, rfl, -⟩ := spells.exists_digits
  obtain ⟨_, spelledOther, rfl, -⟩ := spellsOther.exists_digits
  exact Except.ok.inj (spelled.decode.symm.trans spelledOther.decode)

theorem ne_nil (spells : SpellsMarked bytes text) (notEmpty : bytes ≠ []) :
    text ≠ [] := by
  cases spells with
  | bare spells =>
      have length := spells.length_digits
      have positive := List.length_pos_iff.mpr notEmpty
      exact List.ne_nil_of_length_pos (by omega)
  | marked spells => exact List.cons_ne_nil _ _

/-- Nothing but digits and the mark spells bytes. -/
theorem digit_or_mark (spells : SpellsMarked bytes text) :
    ∀ character ∈ text,
      isCommitDigit character.toLower = true ∨ character = 'x' := by
  cases spells with
  | bare spells =>
      exact fun character isMember => .inl (spells.areDigits character isMember)
  | marked spells =>
      intro character isMember
      rcases List.mem_cons.mp isMember with rfl | isMember
      · exact .inl rfl
      · rcases List.mem_cons.mp isMember with rfl | isMember
        · exact .inr rfl
        · exact .inl (spells.areDigits character isMember)

theorem not_mem (spells : SpellsMarked bytes text) {character : Char}
    (notDigit : isCommitDigit character.toLower = false)
    (notMark : character ≠ 'x') : character ∉ text := by
  intro isMember
  rcases spells.digit_or_mark character isMember with isDigit | isMark
  · rw [notDigit] at isDigit
    exact Bool.false_ne_true isDigit
  · exact notMark isMark

theorem noBlank (spells : SpellsMarked bytes text) :
    ∀ character ∈ text, Text.isBlank character = false := by
  intro character isMember
  rcases spells.digit_or_mark character isMember with isDigit | rfl
  · exact (Text.plain_of_digit character isDigit).1
  · rfl

theorem trimmed_eq (spells : SpellsMarked bytes text) :
    Text.trimmed text = text :=
  Text.trimmed_eq_self spells.noBlank

end SpellsMarked

/-! ## Written bytes -/

/-- Bytes are read back from their text. -/
@[simp] theorem decode_encode (bytes : Bytes) :
    decode (encode bytes) = .ok bytes :=
  (spells_encodeChars bytes).decode

/-- The text of bytes has neither blanks at its ends nor a mark in front. -/
theorem plain_encodeChars (bytes : Bytes) :
    Text.trimmed (encodeChars bytes) = encodeChars bytes ∧
      Text.dropHexMark (encodeChars bytes) = encodeChars bytes ∧
        Text.dropHexMarks (encodeChars bytes) = encodeChars bytes :=
  (spells_encodeChars bytes).plain

theorem encode_injective : Function.Injective encode := by
  intro first second equal
  have decoded : decode (encode first) = decode (encode second) := by
    rw [equal]
  simpa using decoded

/-- The characters of the text of bytes. -/
@[simp] theorem toList_encode (bytes : Bytes) :
    (encode bytes).toList = encodeChars bytes := by
  simp [encode]

end Hex
end ReportBinding
