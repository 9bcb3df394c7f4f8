import ReportBinding.Text.Blank

/-!
# The end of a text

Long diagnostics are cut down to their end, which says what went wrong.
-/

namespace ReportBinding
namespace Text

/-- The last characters of a list, at most the given number of them. -/
def lastOf (count : Nat) (characters : List Char) : List Char :=
  characters.drop (characters.length - count)

/-- The greatest number of characters that a cut diagnostic keeps. -/
def endingLength : Nat := 512

/-- The end of a text, without blanks around the text. -/
def ending (text : String) : String :=
  String.ofList (lastOf endingLength (trimmed text.toList))

end Text
end ReportBinding
