import Steward.Text.Blank
import Steward.Text.Width

/-!
# Tables

A table is drawn with thin lines and round corners.  Every column is as wide
as its widest line, one space on either side of it, and a cell of several
lines makes its row as high as it is itself.
-/

namespace Steward

/-- A row of titles and rows of cells of the same length. -/
structure Table where
  titles : List String
  rows : List (List String)

namespace Table

def cellLines (cell : String) : List (List Char) :=
  Text.pieces (· == '\n') cell.toList

/-- The columns of the terminal that a cell takes. -/
def cellWidth (cell : String) : Nat :=
  ((cellLines cell).map Text.lineWidth).foldl max 0

/-- How wide each column is. -/
def widths (table : Table) : List Nat :=
  table.rows.foldl (fun widths row => List.zipWith max widths (row.map cellWidth))
    (table.titles.map cellWidth)

/-- A line of a cell with blanks up to the width of its column and around it. -/
def padded (width : Nat) (line : List Char) : List Char :=
  ' ' :: line ++ List.replicate (width - Text.lineWidth line) ' ' ++ [' ']

/-- Parts of a line between a left and a right end. -/
def framed (left middle right : Char) (parts : List (List Char)) : List Char :=
  left :: List.intercalate [middle] parts ++ [right, '\n']

/-- A line between rows. -/
def ruling (left middle right : Char) (widths : List Nat) : List Char :=
  framed left middle right (widths.map (fun width => List.replicate (width + 2) '─'))

/-- How many lines a row takes. -/
def height (row : List String) : Nat :=
  (row.map (fun cell => (cellLines cell).length)).foldl max 0

def rowLines (widths : List Nat) (row : List String) : List (List Char) :=
  (List.range (height row)).map (fun index =>
    framed '│' '│' '│' (List.zipWith
      (fun width cell => padded width ((cellLines cell)[index]?.getD [])) widths row))

/-- The table as text; every line ends in a line feed. -/
def render (table : Table) : String :=
  let widths := table.widths
  let bodies := table.rows.map (fun row => (rowLines widths row).flatten)
  String.ofList
    (ruling '╭' '┬' '╮' widths ++ (rowLines widths table.titles).flatten ++
      bodies.flatMap (fun body => ruling '├' '┼' '┤' widths ++ body) ++
      ruling '╰' '┴' '╯' widths)

end Table

end Steward
