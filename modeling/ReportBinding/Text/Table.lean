import ReportBinding.Text.Width

/-!
# Tables

A table is drawn in box characters: a heading, rows divided by dashed lines,
and columns as wide as their widest cell.  A cell may have several lines.
-/

namespace ReportBinding
namespace Text

/-- The lines of one cell. -/
abbrev Cell := List (List Char)

/-- The pieces of a text between line feeds, when the first piece already has
the given characters, last first. -/
def cellLinesFrom (reversed : List Char) : List Char → Cell
  | [] => [reversed.reverse]
  | '\n' :: rest => reversed.reverse :: cellLinesFrom [] rest
  | character :: rest => cellLinesFrom (character :: reversed) rest

/-- The cell that shows a text. -/
def cell (text : String) : Cell :=
  cellLinesFrom [] text.toList

/-- The width of a cell. -/
def cellWidth (cell : Cell) : Nat :=
  (cell.map width).foldl max 0

/-- The widths of the columns of a table. -/
def columnWidths (rows : List (List Cell)) : List Nat :=
  rows.foldl (fun widths row =>
    (row.zipIdx).map fun (cell, column) =>
      max (widths.getD column 0) (cellWidth cell)) []

/-- Characters with blanks behind them up to a width. -/
def padded (columns : Nat) (characters : List Char) : List Char :=
  characters ++ List.replicate (columns - width characters) ' '

/-- A line between rows, from its ends, its crossings and what fills it. -/
def rule (widths : List Nat) (start fill crossing stop : Char) : List Char :=
  start :: [crossing].intercalate
    (widths.map fun columns => List.replicate (columns + 2) fill) ++ [stop]

/-- One line of the cells of a row. -/
def rowLine (widths : List Nat) (row : List Cell) (line : Nat) : List Char :=
  '│' :: ['┆'].intercalate
    ((widths.zip row).map fun (columns, cell) =>
      ' ' :: padded columns (cell.getD line []) ++ [' ']) ++ ['│']

/-- The lines of a row. -/
def rowLines (widths : List Nat) (row : List Cell) : List (List Char) :=
  (List.range ((row.map List.length).foldl max 0)).map (rowLine widths row)

/-- The lines of a table. -/
def tableLines (heading : List Cell) (rows : List (List Cell)) :
    List (List Char) :=
  let widths := columnWidths (heading :: rows)
  let between := rule widths '├' '╌' '┼' '┤'
  rule widths '┌' '─' '┬' '┐' :: rowLines widths heading ++
    rule widths '╞' '═' '╪' '╡' ::
      [between].intercalate (rows.map (rowLines widths)) ++
        [rule widths '└' '─' '┴' '┘']

/-- The text of a table, without a line end behind it. -/
def table (heading : List String) (rows : List (List String)) : String :=
  String.ofList (['\n'].intercalate
    (tableLines (heading.map cell) (rows.map fun row => row.map cell)))

end Text
end ReportBinding
