import ReportBinding.Text.Quoted

/-!
# Revision ids

A revision is known by its full commit id, kept verbatim: 40 or 64 lowercase
hexadecimal digits.
-/

namespace ReportBinding

/-- Whether a character is a digit of a commit id. -/
def isCommitDigit (character : Char) : Bool :=
  ('0' ≤ character && character ≤ '9') || ('a' ≤ character && character ≤ 'f')

/-- Whether characters make up a full commit id. -/
def IsCommitId (characters : List Char) : Prop :=
  (characters.length = 40 ∨ characters.length = 64) ∧
    characters.all isCommitDigit = true

instance (characters : List Char) : Decidable (IsCommitId characters) :=
  inferInstanceAs (Decidable (_ ∧ _))

/-- A full commit id. -/
@[ext] structure RevisionId where
  text : String
  isCommitId : IsCommitId text.toList
deriving DecidableEq

namespace RevisionId

/-- Why a text is no full commit id. -/
inductive Fault where
  /-- The text is empty. -/
  | empty
  /-- The text has a wrong number of bytes. -/
  | notFull (length : Nat)
  /-- The text has other characters than lowercase hexadecimal digits. -/
  | notLowercaseHex (text : String)
deriving DecidableEq, Repr

/-- The wording of a refusal. -/
def Fault.message : Fault → String
  | .empty => "empty revision id"
  | .notFull length =>
      "revision id must be a full 40 or 64 character commit id, got " ++
        toString length ++ " characters"
  | .notLowercaseHex text =>
      "revision id " ++ Text.quote text ++ " is not lowercase hex"

/-- A character of commit ids takes one byte. -/
theorem utf8Size_eq_one (character : Char)
    (isDigit : isCommitDigit character = true) : character.utf8Size = 1 := by
  simp only [isCommitDigit, Bool.or_eq_true, Bool.and_eq_true,
    decide_eq_true_eq, Char.le_def] at isDigit
  have small : character.val ≤ 127 := by
    rcases isDigit with ⟨_, high⟩ | ⟨_, high⟩
    · exact Nat.le_trans (UInt32.le_iff_toNat_le.mp high) (by decide)
    · exact Nat.le_trans (UInt32.le_iff_toNat_le.mp high) (by decide)
  simp [Char.utf8Size, small]

/-- Commit ids take one byte for each character. -/
theorem utf8ByteSize_eq_length (text : String)
    (digits : ∀ character ∈ text.toList, isCommitDigit character = true) :
    text.utf8ByteSize = text.toList.length := by
  have sum (characters : List Char)
      (digits : ∀ character ∈ characters, isCommitDigit character = true) :
      (String.ofList characters).utf8ByteSize = characters.length := by
    induction characters with
    | nil => rfl
    | cons character characters inductionHypothesis =>
        rw [String.ofList_cons, String.utf8ByteSize_append,
          inductionHypothesis fun other isMember =>
            digits other (List.mem_cons_of_mem _ isMember)]
        simp [utf8Size_eq_one character (digits character List.mem_cons_self)]
        omega
  have same := sum text.toList digits
  rwa [String.ofList_toList] at same

/-- The id that a text is.  The number of bytes is looked at before the
characters. -/
def parse (text : String) : Except Fault RevisionId :=
  if text.isEmpty then .error .empty
  else if full : text.utf8ByteSize = 40 ∨ text.utf8ByteSize = 64 then
    if digits : text.toList.all isCommitDigit = true then
      .ok ⟨text, by
        rw [utf8ByteSize_eq_length text (List.all_eq_true.mp digits)] at full
        exact ⟨full, digits⟩⟩
    else .error (.notLowercaseHex text)
  else .error (.notFull text.utf8ByteSize)

end RevisionId
end ReportBinding
