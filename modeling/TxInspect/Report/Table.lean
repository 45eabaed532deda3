import TxInspect.Text.Columns
import TxInspect.Text.Pieces

/-!
# Tables

A table has a header and rows of cells (`Table`). It is drawn with box characters (`Table.draw`):
each column is as wide as its widest line, cells start at the left with a blank on each side, and a
cell with line breaks takes as many lines as it has.
-/

namespace TxInspect.Report

/-- The lines of a cell. -/
abbrev Cell := List (List Char)

/-- The cell with a text. -/
def Cell.ofText (s : String) : Cell :=
  Text.pieces '\n' s.toList

/-- The columns that a cell takes. -/
def Cell.width (c : Cell) : Nat :=
  (c.map Text.columns).foldl max 0

/-- The line of a cell at a height, with blanks after it; below its last line a cell is blank. -/
def Cell.lineAt (c : Cell) (width height : Nat) : List Char :=
  let line := c.getD height []
  line ++ List.replicate (width - Text.columns line) ' '

/-- Rows of cells under a header. -/
structure Table where
  header : List Cell
  rows : List (List Cell)
deriving DecidableEq, Repr

namespace Table

/-- The widths of the columns. -/
def widths (t : Table) : List Nat :=
  t.rows.foldl (fun ws row => List.zipWith (fun w c => max w (Cell.width c)) ws row)
    (t.header.map Cell.width)

/-- How the columns of a line are joined: what stands before the first, between two, and after the
last. -/
structure Joint where
  left : Char
  middle : Char
  right : Char

/-- Joins the columns of a line. -/
def Joint.join (j : Joint) (columns : List (List Char)) : List Char :=
  j.left :: [j.middle].intercalate columns ++ [j.right]

/-- A horizontal border. -/
def border (j : Joint) (stroke : Char) (widths : List Nat) : List Char :=
  j.join (widths.map fun w => List.replicate (w + 2) stroke)

/-- A line of a row, at a height. -/
def rowLine (widths : List Nat) (row : List Cell) (height : Nat) : List Char :=
  Joint.join ⟨'│', '┆', '│'⟩
    (List.zipWith (fun w c => ' ' :: Cell.lineAt c w height ++ [' ']) widths row)

/-- The lines of a row. -/
def rowLines (widths : List Nat) (row : List Cell) : List (List Char) :=
  (List.range ((row.map List.length).foldl max 0)).map (rowLine widths row)

/-- The lines of a table. -/
def lines (t : Table) : List (List Char) :=
  let ws := t.widths
  border ⟨'┌', '┬', '┐'⟩ '─' ws :: rowLines ws t.header ++ border ⟨'╞', '╪', '╡'⟩ '═' ws
    :: t.rows.flatMap (rowLines ws) ++ [border ⟨'└', '┴', '┘'⟩ '─' ws]

/-- The table, with a line break after each line. -/
def draw (t : Table) : String :=
  String.ofList (t.lines.flatMap (· ++ ['\n']))

end Table

end TxInspect.Report
