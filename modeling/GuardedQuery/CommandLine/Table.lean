import GuardedQuery.Text.Split
import GuardedQuery.Text.Width

/-! # Tables

Cells stand between bars with one space on either side. A column is as wide as its widest line, and
every row but the last has a rule below it. -/

namespace GuardedQuery.CommandLine

/-- A table: its header and its rows, all of the same length. -/
structure Table where
  header : List String
  rows : List (List String)
  deriving DecidableEq

namespace Table

/-- A row as the lines of its cells. -/
abbrev RowLines := List (List String)

def rowLines (row : List String) : RowLines :=
  row.map (Text.split '\n')

/-- The greatest number in a list. -/
def greatest (numbers : List Nat) : Nat :=
  numbers.foldl max 0

/-- The widths of the columns of one row. -/
def rowWidths (row : RowLines) : List Nat :=
  row.map fun lines => greatest (lines.map Text.width)

/-- The widths of the columns. -/
def widths (header : RowLines) (rows : List RowLines) : List Nat :=
  rows.foldl (fun widths row => List.zipWith max widths (rowWidths row)) (rowWidths header)

/-- A rule: `fill` under every cell, and other characters at the left end, under the bars and at the
right end. -/
def rule (left fill joint right : Char) (widths : List Nat) : String :=
  let cells := widths.map fun width => String.ofList (List.replicate (width + 2) fill)
  left.toString ++ String.intercalate joint.toString cells ++ right.toString

/-- A line of a cell with blanks up to its width. -/
def padded (width : Nat) (line : String) : String :=
  " " ++ line ++ String.ofList (List.replicate (width - Text.width line) ' ') ++ " "

/-- One of the lines of a row. -/
def rowLine (widths : List Nat) (row : RowLines) (index : Nat) : String :=
  let cells := List.zipWith (fun width lines => padded width (lines.getD index "")) widths row
  "|" ++ String.intercalate "|" cells ++ "|"

/-- The lines of a row, as many as its highest cell has. -/
def renderRow (widths : List Nat) (row : RowLines) : List String :=
  (List.range (greatest (row.map List.length))).map (rowLine widths row)

/-- The lines of rows with rules between them. -/
def renderRows (widths : List Nat) : List RowLines → List String
  | [] => []
  | [row] => renderRow widths row
  | row :: next :: rest =>
    renderRow widths row ++ rule '|' '-' '+' '|' widths :: renderRows widths (next :: rest)

/-- The text of a table. -/
def render (t : Table) : String :=
  let header := rowLines t.header
  let rows := t.rows.map rowLines
  let widths := widths header rows
  let border := rule '+' '-' '+' '+' widths
  String.intercalate "\n"
    (border :: renderRow widths header ++ rule '+' '=' '=' '+' widths ::
      (renderRows widths rows ++ [border]))

end Table

end GuardedQuery.CommandLine
