import RouterConf.Text.Blank
import RouterConf.Text.Columns

/-!
# Tables

A table with rounded corners, a rule below its header and none between its rows. Every column is as
wide as its widest line, with a blank on either side. A cell of several lines makes its row taller.
-/

namespace RouterConf

/-- A header with rows of as many cells. -/
structure Table where
  header : List String
  rows : List (List String)
  deriving DecidableEq, Repr, Inhabited

namespace Table

def lines (cell : String) : List String :=
  (Text.splitOn '\n' cell.toList).map String.ofList

def cellWidth (cell : String) : Nat :=
  ((lines cell).map Text.columns).foldl max 0

def widths (t : Table) : List Nat :=
  t.rows.foldl (fun ws row => List.zipWith max ws (row.map cellWidth)) (t.header.map cellWidth)

/-- A line with as many empty lines after it as make `height`. -/
def pad (height : Nat) (ls : List String) : List String :=
  ls ++ List.replicate (height - ls.length) ""

/-- A line of a cell between two blanks, filled up to a width. -/
def fill (width : Nat) (line : String) : String :=
  " " ++ line ++ "".pushn ' ' (width - Text.columns line) ++ " "

def across (ws : List Nat) (cells : List String) : String :=
  "│" ++ "│".intercalate (List.zipWith fill ws cells) ++ "│"

def rowLines (ws : List Nat) (row : List String) : List String :=
  let cells := row.map lines
  let height := (cells.map List.length).foldl max 0
  (List.range height).map fun i => across ws (cells.map fun ls => (pad height ls).getD i "")

def rule (left middle right : String) (ws : List Nat) : String :=
  left ++ middle.intercalate (ws.map fun w => "".pushn '─' (w + 2)) ++ right

def text (t : Table) : String :=
  let ws := t.widths
  "\n".intercalate ([rule "╭" "┬" "╮" ws] ++ rowLines ws t.header ++ [rule "├" "┼" "┤" ws] ++
    t.rows.flatMap (rowLines ws) ++ [rule "╰" "┴" "╯" ws])

end Table

end RouterConf
