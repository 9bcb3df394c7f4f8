/-!
# Lines

A text falls into lines at its line feeds.  A carriage return right before a
line feed belongs to the line end, and a last line needs no line feed.
-/

namespace ReportBinding
namespace Text

/-- Drop a carriage return from the front of a line that is held reversed. -/
def dropReturn : List Char → List Char
  | '\r' :: reversed => reversed
  | reversed => reversed

/-- The lines of a text, with the reversed beginning of the first one given. -/
def linesFrom (reversed : List Char) : List Char → List (List Char)
  | [] => if reversed.isEmpty then [] else [reversed.reverse]
  | '\n' :: rest => (dropReturn reversed).reverse :: linesFrom [] rest
  | character :: rest => linesFrom (character :: reversed) rest

/-- The lines of a list of characters, without their line ends. -/
def linesOf (characters : List Char) : List (List Char) :=
  linesFrom [] characters

/-- The lines of a text, without their line ends. -/
def lines (text : String) : List String :=
  (linesOf text.toList).map String.ofList

end Text
end ReportBinding
