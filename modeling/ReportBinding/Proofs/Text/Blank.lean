import ReportBinding.Text.Blank

/-!
# Texts without blanks and marks

Trimming leaves alone what has no blank at its ends and takes away blanks that
are put there, and dropping the marks `0x` leaves alone what has no `x`.
-/

namespace ReportBinding
namespace Text

theorem dropWhile_eq_self_of_head? {p : Char → Bool} {characters : List Char}
    (stays : ∀ character ∈ characters.head?, p character = false) :
    characters.dropWhile p = characters := by
  cases characters with
  | nil => rfl
  | cons character characters =>
      rw [List.dropWhile_cons, stays character rfl]
      rfl

/-- The characters left when those with a property are dropped at both ends. -/
def stripped (p : Char → Bool) (characters : List Char) : List Char :=
  ((characters.dropWhile p).reverse.dropWhile p).reverse

section

variable {p : Char → Bool} {before core after : List Char}

theorem stripped_eq_self_of_ends
    (staysFirst : ∀ character ∈ core.head?, p character = false)
    (staysLast : ∀ character ∈ core.getLast?, p character = false) :
    stripped p core = core := by
  rw [← List.head?_reverse] at staysLast
  rw [stripped, dropWhile_eq_self_of_head? staysFirst,
    dropWhile_eq_self_of_head? staysLast, List.reverse_reverse]

theorem stripped_append_left
    (areDropped : ∀ character ∈ before, p character = true) :
    stripped p (before ++ core) = stripped p core := by
  rw [stripped, List.dropWhile_append_of_pos areDropped, stripped]

theorem stripped_append_right
    (areDropped : ∀ character ∈ after, p character = true) :
    stripped p (core ++ after) = stripped p core := by
  have nothingStays : after.dropWhile p = [] := by
    have dropped := @List.dropWhile_append_of_pos _ p after [] areDropped
    rwa [List.append_nil] at dropped
  have reversed : ∀ character ∈ after.reverse, p character = true :=
    fun character isMember =>
      areDropped character (List.mem_reverse.mp isMember)
  rw [stripped, stripped, List.dropWhile_append]
  split
  · next isEmpty =>
      rw [nothingStays, List.isEmpty_iff.mp isEmpty]
  · rw [List.reverse_append, List.dropWhile_append_of_pos reversed]

/-- What is put at both ends of characters that all stay is dropped again. -/
theorem stripped_surrounded
    (beforeDropped : ∀ character ∈ before, p character = true)
    (stays : ∀ character ∈ core, p character = false)
    (afterDropped : ∀ character ∈ after, p character = true) :
    stripped p (before ++ core ++ after) = core := by
  rw [stripped_append_right afterDropped, stripped_append_left beforeDropped]
  apply stripped_eq_self_of_ends
  · intro character isFirst
    exact stays character (List.mem_of_mem_head? isFirst)
  · intro character isLast
    exact stays character (List.mem_of_mem_getLast? isLast)

end

/-- Nothing is dropped from a text that has no blanks at its ends. -/
theorem trimmed_eq_self_of_ends {characters : List Char}
    (noBlankFirst : ∀ character ∈ characters.head?,
      isBlank character = false)
    (noBlankLast : ∀ character ∈ characters.getLast?,
      isBlank character = false) : trimmed characters = characters :=
  stripped_eq_self_of_ends noBlankFirst noBlankLast

/-- Nothing is dropped from the ends of a text without blanks. -/
theorem trimmed_eq_self {characters : List Char}
    (noBlank : ∀ character ∈ characters, isBlank character = false) :
    trimmed characters = characters := by
  apply trimmed_eq_self_of_ends
  · intro character isFirst
    exact noBlank character (List.mem_of_mem_head? isFirst)
  · intro character isLast
    exact noBlank character (List.mem_of_mem_getLast? isLast)

/-- Nothing but blanks stands around a text. -/
inductive Surrounds (core : List Char) : List Char → Prop where
  | blanks {before after : List Char}
      (blankBefore : ∀ character ∈ before, isBlank character = true)
      (blankAfter : ∀ character ∈ after, isBlank character = true) :
      Surrounds core (before ++ core ++ after)

theorem Surrounds.behind {core blanks : List Char}
    (areBlank : ∀ character ∈ blanks, isBlank character = true) :
    Surrounds core (blanks ++ core) := by
  have surrounds := @Surrounds.blanks core blanks [] areBlank
    (List.forall_mem_nil _)
  rwa [List.append_nil] at surrounds

/-- Blanks around a text are dropped. -/
theorem Surrounds.trimmed_eq {core text : List Char}
    (surrounds : Surrounds core text) : trimmed text = trimmed core := by
  obtain ⟨blankBefore, blankAfter⟩ := surrounds
  exact (stripped_append_right blankAfter).trans
    (stripped_append_left blankBefore)

/-- Nothing but blanks is dropped from the ends of a text. -/
theorem surrounds_trimmed (characters : List Char) :
    Surrounds (trimmed characters) characters := by
  have blankBefore : ∀ character ∈ characters.takeWhile isBlank,
      isBlank character = true :=
    List.all_eq_true.mp List.all_takeWhile
  have blankAfter : ∀ character ∈
      ((characters.dropWhile isBlank).reverse.takeWhile isBlank).reverse,
      isBlank character = true :=
    fun character isMember => List.all_eq_true.mp List.all_takeWhile character
      (List.mem_reverse.mp isMember)
  have parts : characters.takeWhile isBlank ++ trimmed characters ++
      ((characters.dropWhile isBlank).reverse.takeWhile isBlank).reverse =
        characters := by
    rw [trimmed, List.append_assoc, ← List.reverse_append,
      List.takeWhile_append_dropWhile, List.reverse_reverse,
      List.takeWhile_append_dropWhile]
  have surrounds := @Surrounds.blanks (trimmed characters) _ _ blankBefore
    blankAfter
  rwa [parts] at surrounds

/-- A first character that is no blank stays the first. -/
theorem trimmed_cons {character : Char}
    (notBlank : isBlank character = false) (characters : List Char) :
    ∃ rest, trimmed (character :: characters) = character :: rest := by
  have stays : (characters.reverse ++ [character]).dropWhile isBlank =
      characters.reverse.dropWhile isBlank ++ [character] := by
    rw [List.dropWhile_append]
    split
    · next isEmpty =>
        rw [List.isEmpty_iff.mp isEmpty, List.dropWhile_cons, notBlank]
        rfl
    · rfl
  refine ⟨(characters.reverse.dropWhile isBlank).reverse, ?_⟩
  rw [trimmed, List.dropWhile_cons, notBlank, if_neg Bool.false_ne_true,
    List.reverse_cons, stays, List.reverse_append]
  rfl

theorem dropHexMark_eq_self {characters : List Char}
    (noMark : ∀ character ∈ characters, character ≠ 'x') :
    dropHexMark characters = characters := by
  unfold dropHexMark
  split
  · next rest => exact absurd rfl (noMark 'x' (by simp))
  · rfl

/-- A text without an `x` has no marks in front. -/
theorem dropHexMarks_eq_self {characters : List Char}
    (noMark : ∀ character ∈ characters, character ≠ 'x') :
    dropHexMarks characters = characters := by
  unfold dropHexMarks
  split
  · next rest => exact absurd rfl (noMark 'x' (by simp))
  · rfl

end Text
end ReportBinding
