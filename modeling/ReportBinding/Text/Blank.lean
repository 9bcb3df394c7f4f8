/-!
# White space

The characters with the Unicode property `White_Space`, and the removal of
such characters from both ends of a text.
-/

namespace ReportBinding
namespace Text

/-- Membership of a character in the Unicode property `White_Space`. -/
def isBlank (character : Char) : Bool :=
  let code := character.toNat
  (0x09 ≤ code && code ≤ 0x0D) || code == 0x20 || code == 0x85 ||
    code == 0xA0 || code == 0x1680 || (0x2000 ≤ code && code ≤ 0x200A) ||
    code == 0x2028 || code == 0x2029 || code == 0x202F || code == 0x205F ||
    code == 0x3000

/-- The characters left when the blanks at both ends are dropped. -/
def trimmed (characters : List Char) : List Char :=
  ((characters.dropWhile isBlank).reverse.dropWhile isBlank).reverse

/-- A text without the blanks at its ends. -/
def trim (text : String) : String :=
  String.ofList (trimmed text.toList)

@[simp] theorem toList_trim (text : String) :
    (trim text).toList = trimmed text.toList := by
  simp [trim]

/-- The rest of a text behind a fixed beginning, when it has that beginning. -/
def after? : List Char → List Char → Option (List Char)
  | [], text => some text
  | _ :: _, [] => none
  | expected :: beginning, found :: text =>
      if expected = found then after? beginning text else none

/-- A text has a beginning exactly when it is that beginning and the rest. -/
theorem after?_eq_some_iff (beginning text rest : List Char) :
    after? beginning text = some rest ↔ text = beginning ++ rest := by
  induction beginning generalizing text with
  | nil => simp [after?]
  | cons expected beginning inductionHypothesis =>
      cases text with
      | nil => simp [after?]
      | cons found text =>
          by_cases same : expected = found
          · simp [after?, same, inductionHypothesis]
          · simp only [after?, same, if_false, List.cons_append,
              List.cons.injEq]
            constructor
            · intro impossible
              cases impossible
            · intro equal
              exact absurd equal.1.symm same

/-- The rest of a text once every leading copy of `0x` is gone. -/
def dropHexMarks : List Char → List Char
  | '0' :: 'x' :: rest => dropHexMarks rest
  | text => text

/-- The rest of a text behind at most one leading `0x`. -/
def dropHexMark : List Char → List Char
  | '0' :: 'x' :: rest => rest
  | text => text

end Text
end ReportBinding
