import Mathlib.Logic.Function.Basic
import ReportBinding.Text.Host

/-!
# Texts and their bytes

The bytes of a text tell the text, and those of characters below 128 are the
characters themselves: one byte each, and no other character begins with such
a byte.  Lenient decoding tells the text too: `lossy_encode`.
-/

namespace ReportBinding
namespace Text
namespace Utf8

theorem encode_injective : Function.Injective encode := by
  intro first second equal
  have decoded : decode? (encode first) = decode? (encode second) := by
    rw [equal]
  simpa using decoded

theorem encode_ofList (characters : List Char) :
    encode (String.ofList characters) =
      characters.flatMap String.utf8EncodeChar := by
  simp [encode, List.utf8Encode]

theorem utf8EncodeChar_of_ascii (character : Char)
    (isAscii : character.toNat < 128) :
    String.utf8EncodeChar character = [UInt8.ofNat character.toNat] := by
  have small : character.val ≤ 127 := by
    rw [UInt32.le_iff_toNat_le]
    exact Nat.le_of_lt_succ isAscii
  rw [String.utf8EncodeChar_eq_singleton (Char.utf8Size_eq_one_iff.mpr small)]
  rfl

/-- A text of characters below 128 has one byte for each of them. -/
theorem encode_of_ascii (characters : List Char)
    (areAscii : ∀ character ∈ characters, character.toNat < 128) :
    encode (String.ofList characters) =
      characters.map fun character => UInt8.ofNat character.toNat := by
  rw [encode_ofList]
  induction characters with
  | nil => rfl
  | cons character characters inductionHypothesis =>
      rw [List.flatMap_cons, List.map_cons,
        utf8EncodeChar_of_ascii character (areAscii _ List.mem_cons_self),
        inductionHypothesis fun other isMember =>
          areAscii other (List.mem_cons_of_mem _ isMember)]
      rfl

/-- Bytes that decode to a text are the bytes of that text. -/
theorem encode_of_decode? {bytes : Bytes} {text : String}
    (decoded : decode? bytes = some text) : encode text = bytes := by
  unfold decode? String.fromUTF8? at decoded
  split at decoded
  · cases decoded
    rfl
  · cases decoded

/-- Only a character below 128 begins with a byte below 128, which is all of
it. -/
theorem toNat_eq_of_utf8EncodeChar {character : Char} {byte : UInt8}
    {rest : Bytes}
    (begins : String.utf8EncodeChar character = byte :: rest)
    (isAscii : byte.toNat < 128) : character.toNat = byte.toNat := by
  unfold String.utf8EncodeChar at begins
  dsimp only at begins
  split at begins
  · next small =>
      injection begins with isByte
      rw [← isByte, UInt8.toNat_ofNat']
      have same : character.toNat = character.val.toNat := rfl
      omega
  -- All longer sequences begin with a byte of at least 192.
  all_goals
    exfalso
  · split at begins
    · injection begins with isByte
      rw [← isByte, UInt8.toNat_ofNat'] at isAscii
      omega
    split at begins
    · injection begins with isByte
      rw [← isByte, UInt8.toNat_ofNat'] at isAscii
      omega
    · injection begins with isByte
      rw [← isByte, UInt8.toNat_ofNat'] at isAscii
      omega

/-- A text whose first byte is below 128 begins with the character of that
byte. -/
theorem toList_of_decode?_cons {byte : UInt8} {rest : Bytes} {text : String}
    (decoded : decode? (byte :: rest) = some text)
    (isAscii : byte.toNat < 128) :
    ∃ character characters,
      text.toList = character :: characters ∧
        character.toNat = byte.toNat := by
  have bytes : text.toList.flatMap String.utf8EncodeChar = byte :: rest := by
    rw [← encode_ofList, String.ofList_toList]
    exact encode_of_decode? decoded
  cases spelled : text.toList with
  | nil =>
      rw [spelled] at bytes
      cases bytes
  | cons character characters =>
      refine ⟨character, characters, rfl, ?_⟩
      rw [spelled, List.flatMap_cons] at bytes
      cases first : String.utf8EncodeChar character with
      | nil => exact absurd first String.utf8EncodeChar_ne_nil
      | cons other others =>
          rw [first, List.cons_append] at bytes
          injection bytes with same
          rw [← same] at isAscii ⊢
          exact toNat_eq_of_utf8EncodeChar first isAscii

/-! ## Lenient decoding -/

/-- What the first of two, three or four bytes announces.  The bits of the
first byte decide on the range of the second one where short forms and
surrogates have to be ruled out. -/
theorem begin?_of_two :
    ∀ bits < 32, 2 ≤ bits →
      Partial.begin? (UInt8.ofNat (bits + 192)) =
        some ⟨bits, 1, 0x80, 0xBF⟩ := by
  decide

theorem begin?_of_three :
    ∀ bits < 16, Partial.begin? (UInt8.ofNat (bits + 224)) =
      some ⟨bits, 2, if bits = 0 then 0xA0 else 0x80,
        if bits = 13 then 0x9F else 0xBF⟩ := by
  decide

theorem begin?_of_four :
    ∀ bits < 5, Partial.begin? (UInt8.ofNat (bits + 240)) =
      some ⟨bits, 3, if bits = 0 then 0x90 else 0x80,
        if bits = 4 then 0x8F else 0xBF⟩ := by
  decide

theorem lossyFrom_of_begin? {lead : UInt8} {sequence : Partial}
    (begins : Partial.begin? lead = some sequence)
    (isHigh : ¬lead < 0x80) (rest : Bytes) :
    lossyFrom none (lead :: rest) = lossyFrom (some sequence) rest := by
  rw [lossyFrom, if_neg isHigh, begins]

/-- A byte that a sequence waits for adds six bits to it. -/
theorem lossyFrom_of_continuation {bits due value : Nat} {low high : UInt8}
    (isSmall : value < 64) (aboveLow : low.toNat ≤ value + 128)
    (belowHigh : value + 128 ≤ high.toNat) (rest : Bytes) :
    lossyFrom (some ⟨bits, due, low, high⟩)
        (UInt8.ofNat (value + 128) :: rest) =
      if due = 1 then Char.ofNat (bits * 64 + value) :: lossyFrom none rest
      else lossyFrom (some ⟨bits * 64 + value, due - 1, 0x80, 0xBF⟩) rest := by
  have isByte : (UInt8.ofNat (value + 128)).toNat = value + 128 := by
    rw [UInt8.toNat_ofNat']
    omega
  have inRange : low ≤ UInt8.ofNat (value + 128) ∧
      UInt8.ofNat (value + 128) ≤ high := by
    rw [UInt8.le_iff_toNat_le, UInt8.le_iff_toNat_le, isByte]
    exact ⟨aboveLow, belowHigh⟩
  have extended : Partial.extend ⟨bits, due, low, high⟩
      (UInt8.ofNat (value + 128)) = bits * 64 + value := by
    unfold Partial.extend
    rw [isByte]
    have lowered : value + 128 - 0x80 = value := by omega
    rw [lowered]
  rw [lossyFrom, if_pos inRange, extended]

/-- The bytes of a character in front of others are read as that character. -/
theorem lossyFrom_utf8EncodeChar (character : Char) (rest : Bytes) :
    lossyFrom none (String.utf8EncodeChar character ++ rest) =
      character :: lossyFrom none rest := by
  have isChar : Char.ofNat character.val.toNat = character :=
    Char.ofNat_toNat character
  have isValid : character.val.toNat < 55296 ∨
      57343 < character.val.toNat ∧ character.val.toNat < 1114112 :=
    character.valid
  have isHigh {bits lead : Nat} (fits : bits + lead < 256)
      (above : 128 ≤ lead) : ¬UInt8.ofNat (bits + lead) < 0x80 := by
    rw [UInt8.lt_iff_toNat_lt, UInt8.toNat_ofNat']
    simp only [UInt8.reduceToNat]
    omega
  unfold String.utf8EncodeChar
  generalize character.val.toNat = value at isChar isValid
  dsimp only
  split
  · next isShort =>
      have isLow : UInt8.ofNat value < 0x80 := by
        rw [UInt8.lt_iff_toNat_lt, UInt8.toNat_ofNat']
        simp only [UInt8.reduceToNat]
        omega
      have isByte : (UInt8.ofNat value).toNat = value := by
        rw [UInt8.toNat_ofNat']
        omega
      rw [List.singleton_append, lossyFrom, if_pos isLow, isByte, isChar]
  split
  · have begins := begin?_of_two (value / 64 % 32) (by omega) (by omega)
    rw [List.cons_append, List.cons_append, List.nil_append,
      lossyFrom_of_begin? begins (isHigh (by omega) (by omega)),
      lossyFrom_of_continuation (by omega) (by simp) (by simp; omega),
      if_pos rfl]
    have bits : value / 64 % 32 * 64 + value % 64 = value := by omega
    rw [bits, isChar]
  split
  · have begins := begin?_of_three (value / 4096 % 16) (by omega)
    rw [List.cons_append, List.cons_append, List.cons_append, List.nil_append,
      lossyFrom_of_begin? begins (isHigh (by omega) (by omega)),
      lossyFrom_of_continuation (by omega) ?_ ?_,
      if_neg (by decide), lossyFrom_of_continuation (by omega) (by simp)
        (by simp; omega), if_pos rfl]
    · have bits : (value / 4096 % 16 * 64 + value / 64 % 64) * 64 +
          value % 64 = value := by omega
      rw [bits, isChar]
    · split <;> simp <;> omega
    · split <;> simp <;> omega
  · have begins := begin?_of_four (value / 262144 % 8) (by omega)
    rw [List.cons_append, List.cons_append, List.cons_append,
      List.cons_append, List.nil_append,
      lossyFrom_of_begin? begins (isHigh (by omega) (by omega)),
      lossyFrom_of_continuation (by omega) ?_ ?_,
      if_neg (by decide), lossyFrom_of_continuation (by omega) (by simp)
        (by simp; omega), if_neg (by decide),
      lossyFrom_of_continuation (by omega) (by simp) (by simp; omega),
      if_pos rfl]
    · have bits : ((value / 262144 % 8 * 64 + value / 4096 % 64) * 64 +
          value / 64 % 64) * 64 + value % 64 = value := by omega
      rw [bits, isChar]
    · split <;> simp <;> omega
    · split <;> simp <;> omega

/-- Lenient decoding undoes encoding. -/
@[simp] theorem lossy_encode (text : String) : lossy (encode text) = text := by
  have spelled (characters : List Char) :
      lossyFrom none (characters.flatMap String.utf8EncodeChar) =
        characters := by
    induction characters with
    | nil => rfl
    | cons character characters inductionHypothesis =>
        rw [List.flatMap_cons, lossyFrom_utf8EncodeChar, inductionHypothesis]
  have bytes : encode text = text.toList.flatMap String.utf8EncodeChar := by
    rw [← encode_ofList, String.ofList_toList]
  rw [lossy, bytes, spelled, String.ofList_toList]

end Utf8
end Text

/-! ## Texts of the host -/

namespace HostText

/-- Messages show a text as it is. -/
@[simp] theorem display_ofText (text : String) :
    (ofText text).display = text :=
  Text.Utf8.lossy_encode text

theorem text?_eq_some_iff {host : HostText} {text : String} :
    host.text? = some text ↔ host = ofText text := by
  constructor
  · intro decoded
    exact HostText.ext (Text.Utf8.encode_of_decode? decoded).symm
  · rintro rfl
    exact text?_ofText text

/-- The bytes are those of a text. -/
def IsText (host : HostText) : Prop :=
  ∃ text : String, host = text

theorem isText_ofText (text : String) : (ofText text).IsText := ⟨text, rfl⟩

theorem isText_iff {host : HostText} :
    host.IsText ↔ ∃ text, host.text? = some text := by
  simp only [IsText, text?_eq_some_iff]

/-- Bytes that are not those of a text have none. -/
theorem text?_eq_none_iff {host : HostText} :
    host.text? = none ↔ ¬host.IsText := by
  rw [isText_iff, ← Option.isSome_iff_exists, Option.not_isSome_iff_eq_none]

/-- What messages show of a text is the text. -/
theorem IsText.ofText_display {host : HostText} (isText : host.IsText) :
    ofText host.display = host := by
  obtain ⟨text, rfl⟩ := isText
  rw [display_ofText]

end HostText
end ReportBinding
