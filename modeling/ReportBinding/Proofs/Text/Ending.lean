import ReportBinding.Proofs.Text.Blank
import ReportBinding.Text.Ending

/-!
# Cutting texts off at byte positions

Texts are held in bytes, so their end is found by stepping back from the last
character to the byte position where the first one that is kept begins, and cut
off there: `cutEnding?`.  That position never lies within a character, and the
cut gives the end of the text: `cutEnding?_eq`.
-/

namespace ReportBinding
namespace Text

/-! ## Byte positions -/

/-- The byte positions where characters begin, the first of them given. -/
def beginningsFrom (position : Nat) : List Char → List Nat
  | [] => []
  | character :: rest =>
      position :: beginningsFrom (position + character.utf8Size) rest

/-- The text from a byte position on.  A position that lies within a character
or behind the end of the text is refused. -/
def sliceFrom? (text : String) (position : Nat) : Option String :=
  if isBoundary : String.Pos.Raw.IsValid text ⟨position⟩ then
    some (text.sliceFrom ⟨⟨position⟩, isBoundary⟩).copy
  else none

/-- The end of a text without blanks around it, cut off where the character
begins that is the last but `endingLength` less one. -/
def cutEnding? (text : String) : Option String :=
  let core := trim text
  match (beginningsFrom 0 core.toList).reverse[endingLength - 1]? with
  | some position => sliceFrom? core position
  | none => some core

@[simp] theorem length_beginningsFrom (position : Nat)
    (characters : List Char) :
    (beginningsFrom position characters).length = characters.length := by
  induction characters generalizing position with
  | nil => rfl
  | cons character rest inductionHypothesis =>
      rw [beginningsFrom, List.length_cons, List.length_cons,
        inductionHypothesis]

/-- A character begins behind the bytes of those in front of it. -/
theorem getElem?_beginningsFrom (position : Nat) (before : List Char)
    (character : Char) (after : List Char) :
    (beginningsFrom position (before ++ character :: after))[before.length]? =
      some (position + (String.ofList before).utf8ByteSize) := by
  induction before generalizing position with
  | nil => rfl
  | cons first before inductionHypothesis =>
      have further := inductionHypothesis (position + first.utf8Size)
      rw [List.cons_append, beginningsFrom, List.length_cons,
        List.getElem?_cons_succ, further, String.ofList_cons,
        String.utf8ByteSize_append, String.utf8ByteSize_singleton,
        Nat.add_assoc]

/-- Stepping back over some characters ends where the first of them begins. -/
theorem getElem?_reverse_beginningsFrom (before : List Char)
    {after : List Char} (notEmpty : after ≠ []) :
    (beginningsFrom 0 (before ++ after)).reverse[after.length - 1]? =
      some (String.ofList before).utf8ByteSize := by
  have positive : 0 < after.length := List.length_pos_iff.mpr notEmpty
  have total : (beginningsFrom 0 (before ++ after)).length =
      before.length + after.length := by
    rw [length_beginningsFrom, List.length_append]
  have counted :
      (beginningsFrom 0 (before ++ after)).length - 1 - (after.length - 1) =
        before.length := by
    omega
  rw [List.getElem?_reverse (by omega), counted]
  cases after with
  | nil => exact absurd rfl notEmpty
  | cons character after =>
      rw [getElem?_beginningsFrom, Nat.zero_add]

/-- A text is sliced exactly at the ends of the texts that it begins with. -/
theorem sliceFrom?_eq_some_iff (text : String) (position : Nat)
    (rest : String) :
    sliceFrom? text position = some rest ↔
      ∃ lead, text = lead ++ rest ∧ position = lead.utf8ByteSize := by
  unfold sliceFrom?
  constructor
  · intro isSliced
    split at isSliced
    · next isBoundary =>
        cases isSliced
        have splits := String.Pos.splits (s := text) ⟨⟨position⟩, isBoundary⟩
        exact ⟨_, splits.eq_append,
          congrArg String.Pos.Raw.byteIdx splits.offset_eq_rawEndPos⟩
    · cases isSliced
  · rintro ⟨lead, rfl, rfl⟩
    have isBoundary : String.Pos.Raw.IsValid (lead ++ rest)
        ⟨lead.utf8ByteSize⟩ :=
      String.Pos.Raw.isValid_iff_exists_append.mpr ⟨lead, rest, rfl, rfl⟩
    have splits : String.Pos.Splits ⟨_, isBoundary⟩ lead rest := ⟨rfl, rfl⟩
    rw [dif_pos isBoundary, splits.copy_sliceFrom_eq]

/-! ## The end of a text -/

/-- The characters of a text that its end leaves out. -/
def leftOut (text : String) : String :=
  String.ofList ((trimmed text.toList).take
    ((trimmed text.toList).length - endingLength))

/-- A text consists of what its end leaves out and of its end. -/
theorem leftOut_append_ending (text : String) :
    leftOut text ++ ending text = trim text := by
  rw [leftOut, ending, lastOf, ← String.ofList_append, List.take_append_drop]
  rfl

@[simp] theorem length_ending (text : String) :
    (ending text).length = min endingLength (trim text).length := by
  rw [← String.length_toList, ← String.length_toList, toList_trim, ending,
    String.toList_ofList, lastOf, List.length_drop]
  omega

/-- A text of so few characters is all end. -/
theorem ending_eq_trim {text : String}
    (isShort : (trim text).length ≤ endingLength) :
    ending text = trim text := by
  rw [← String.length_toList, toList_trim] at isShort
  rw [ending, lastOf, Nat.sub_eq_zero_of_le isShort]
  rfl

/-- The end of a text is what is cut off at a byte position, and that position
is never refused. -/
theorem cutEnding?_eq (text : String) :
    cutEnding? text = some (ending text) := by
  have parts := leftOut_append_ending text
  have length := length_ending text
  unfold cutEnding?
  dsimp only
  by_cases isShort : (trim text).length < endingLength
  · have noBeginning :
        (beginningsFrom 0 (trim text).toList).reverse[endingLength - 1]? =
          none := by
      rw [List.getElem?_eq_none_iff, List.length_reverse,
        length_beginningsFrom, String.length_toList]
      omega
    rw [noBeginning, ending_eq_trim (Nat.le_of_lt isShort)]
  · have isFull : (ending text).toList.length = endingLength := by
      rw [String.length_toList]
      omega
    have notEmpty : (ending text).toList ≠ [] := by
      apply List.ne_nil_of_length_pos
      rw [isFull]
      decide
    have begins := getElem?_reverse_beginningsFrom (leftOut text).toList notEmpty
    rw [isFull, ← String.toList_append, parts, String.ofList_toList] at begins
    rw [begins]
    exact (sliceFrom?_eq_some_iff _ _ _).mpr ⟨_, parts.symm, rfl⟩

end Text
end ReportBinding
