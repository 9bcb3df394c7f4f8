import ReportBinding.Text.Lines

/-!
# Texts that spell lines

The same lines can be spelled in several texts: each line ends in a line feed,
or in a carriage return and a line feed, and the last one may have no end.  All
that a reader makes of the lines one by one is the same for all of these texts:
`filterMap_linesOf`.
-/

namespace ReportBinding
namespace Text

/-- The ways in which a line ends. -/
inductive LineEnd where
  /-- A line feed. -/
  | feed
  /-- A carriage return and a line feed. -/
  | returnFeed
deriving DecidableEq, Repr

/-- The characters of a line end. -/
def LineEnd.characters : LineEnd → List Char
  | .feed => ['\n']
  | .returnFeed => ['\r', '\n']

/-- A text is made of lines with their ends.  The last line may have none. -/
inductive Spells : List (List Char) → List Char → Prop where
  | nothing : Spells [] []
  | unended (line : List Char) : Spells [line] line
  | ended (line : List Char) (lineEnd : LineEnd) {lines : List (List Char)}
      {rest : List Char} (spells : Spells lines rest) :
      Spells (line :: lines) (line ++ lineEnd.characters ++ rest)

/-- A line without the carriage return at its end, if there is one. -/
def withoutReturn (line : List Char) : List Char :=
  (dropReturn line.reverse).reverse

theorem withoutReturn_of_getLast? {line : List Char}
    (noReturn : line.getLast? ≠ some '\r') : withoutReturn line = line := by
  unfold withoutReturn dropReturn
  split
  · next reversed isReversed =>
      rw [← List.head?_reverse, isReversed] at noReturn
      exact absurd rfl noReturn
  · exact line.reverse_reverse

/-- The first character of a line stays if it is no carriage return. -/
theorem head?_withoutReturn {line : List Char}
    (noReturn : line.head? ≠ some '\r') :
    (withoutReturn line).head? = line.head? := by
  unfold withoutReturn dropReturn
  split
  · next reversed isReversed =>
      have spelled : line = reversed.reverse ++ ['\r'] := by
        rw [← List.reverse_reverse line, isReversed, List.reverse_cons]
      rw [spelled] at noReturn ⊢
      generalize reversed.reverse = before at noReturn ⊢
      cases before with
      | nil => exact absurd rfl noReturn
      | cons character characters => rfl
  · rw [List.reverse_reverse]

/-- What is read up to a line feed becomes one line. -/
theorem linesFrom_feed (line rest : List Char) (noFeed : '\n' ∉ line)
    (reversed : List Char) :
    linesFrom reversed (line ++ '\n' :: rest) =
      withoutReturn (reversed.reverse ++ line) :: linesOf rest := by
  induction line generalizing reversed with
  | nil =>
      rw [List.nil_append, linesFrom, withoutReturn, List.append_nil,
        List.reverse_reverse, linesOf]
  | cons character line inductionHypothesis =>
      have isOther : character ≠ '\n' := by
        rintro rfl
        exact noFeed List.mem_cons_self
      have noFeedLeft : '\n' ∉ line := fun isMember =>
        noFeed (List.mem_cons_of_mem _ isMember)
      rw [List.cons_append, linesFrom, inductionHypothesis noFeedLeft,
        List.reverse_cons, List.append_assoc, List.singleton_append]
      exact isOther

/-- A text without line feeds is its own last line. -/
theorem linesFrom_of_no_feed (line : List Char) (noFeed : '\n' ∉ line)
    (reversed : List Char) :
    linesFrom reversed line =
      if (reversed.reverse ++ line).isEmpty then []
      else [reversed.reverse ++ line] := by
  induction line generalizing reversed with
  | nil => simp [linesFrom]
  | cons character line inductionHypothesis =>
      have isOther : character ≠ '\n' := by
        rintro rfl
        exact noFeed List.mem_cons_self
      have noFeedLeft : '\n' ∉ line := fun isMember =>
        noFeed (List.mem_cons_of_mem _ isMember)
      rw [linesFrom, inductionHypothesis noFeedLeft, List.reverse_cons,
        List.append_assoc, List.singleton_append]
      exact isOther

/-- A line is cut off its text at its end.  A carriage return that belongs to
the line itself is lost if only a line feed follows. -/
theorem linesOf_ended (line : List Char) (lineEnd : LineEnd)
    (rest : List Char) (noFeed : '\n' ∉ line) :
    linesOf (line ++ lineEnd.characters ++ rest) = line :: linesOf rest ∨
      linesOf (line ++ lineEnd.characters ++ rest) =
        withoutReturn line :: linesOf rest := by
  cases lineEnd with
  | feed =>
      right
      have cut := linesFrom_feed line rest noFeed []
      simpa [LineEnd.characters, linesOf] using cut
  | returnFeed =>
      left
      have noFeedBefore : '\n' ∉ line ++ ['\r'] := by simp [noFeed]
      have cut := linesFrom_feed (line ++ ['\r']) rest noFeedBefore []
      simpa [LineEnd.characters, linesOf, withoutReturn, dropReturn] using cut

/-- What is read from the lines of a text one by one is what is read from the
lines that the text spells, if nothing is read from an empty line and carriage
returns at the ends of lines do not matter. -/
theorem filterMap_linesOf {α : Type} (read : List Char → Option α)
    {lines : List (List Char)} {text : List Char} (spells : Spells lines text)
    (noFeed : ∀ line ∈ lines, '\n' ∉ line) (ignoresEmpty : read [] = none)
    (ignoresReturn : ∀ line ∈ lines, read (withoutReturn line) = read line) :
    (linesOf text).filterMap read = lines.filterMap read := by
  induction spells with
  | nothing => rfl
  | unended line =>
      rw [linesOf, linesFrom_of_no_feed line (noFeed line List.mem_cons_self),
        List.reverse_nil, List.nil_append]
      -- An empty last line is no line of the text.
      split
      · next isEmpty =>
          rw [List.isEmpty_iff.mp isEmpty,
            List.filterMap_cons_none ignoresEmpty]
      · rfl
  | @ended line lineEnd lines rest spells inductionHypothesis =>
      have further := inductionHypothesis
        (fun other isMember => noFeed other (List.mem_cons_of_mem _ isMember))
        (fun other isMember =>
          ignoresReturn other (List.mem_cons_of_mem _ isMember))
      have ignored := ignoresReturn line List.mem_cons_self
      rcases linesOf_ended line lineEnd rest (noFeed line List.mem_cons_self)
        with cut | cut
      · rw [cut, List.filterMap_cons, List.filterMap_cons, further]
      · rw [cut, List.filterMap_cons, List.filterMap_cons, further, ignored]

end Text
end ReportBinding
