import FleetDrift.Render.Ink
import FleetDrift.Text.Width

/-!
# Tables on a terminal

A table with a head row, in a frame with round corners. A column is as wide as its widest line, and
a row as high as its highest cell.
-/

namespace FleetDrift.Render

inductive Alignment where
  | left
  | right
  deriving DecidableEq, Repr

structure ColumnHead where
  title : String
  alignment : Alignment

def lineColumns (line : List Char) : Nat := Text.columns (shownChars line)

abbrev CellLines := List (List Char)

def cellLines (text : String) : CellLines := styledLines text.toList

def cellColumns (lines : CellLines) : Nat := (lines.map lineColumns).foldl max 0

def columnWidths (rows : List (List CellLines)) : List Nat :=
  match rows with
  | [] => []
  | head :: _ =>
    (List.range head.length).map fun i =>
      (rows.map fun row => cellColumns (row.getD i [])).foldl max 0

def blanks (n : Nat) : List Char := List.replicate n ' '

/-- One line of a cell, filled up to the cell's width. A cell is aligned as a whole. -/
def alignLine (alignment : Alignment) (width : Nat) (cell : CellLines) (line : List Char) :
    List Char :=
  let used := lineColumns line
  let inner := cellColumns cell
  match alignment with
  | .left => line ++ blanks (width - used)
  | .right => blanks (width - inner) ++ line ++ blanks (inner - used)

def rowLine (heads : List ColumnHead) (widths : List Nat) (row : List CellLines) (i : Nat) :
    List Char :=
  let cells := (heads.zip (widths.zip row)).map fun (head, width, cell) =>
    ' ' :: alignLine head.alignment width cell (cell.getD i []) ++ [' ']
  '│' :: (cells.map fun c => c ++ ['│']).flatten

def rowHeight (row : List CellLines) : Nat := (row.map List.length).foldl max 1

def rowLines (heads : List ColumnHead) (widths : List Nat) (row : List CellLines) :
    List (List Char) :=
  (List.range (rowHeight row)).map (rowLine heads widths row)

def frameLine (left middle right : Char) (widths : List Nat) : List Char :=
  left :: ((widths.map fun w => List.replicate (w + 2) '─').intersperse [middle]).flatten
    ++ [right]

def table (heads : List ColumnHead) (rows : List (List String)) : String :=
  let head := heads.map fun h => cellLines h.title
  let body := rows.map fun row => row.map cellLines
  let widths := columnWidths (head :: body)
  let lines := frameLine '╭' '┬' '╮' widths :: rowLines heads widths head
    ++ frameLine '├' '┼' '┤' widths :: body.flatMap (rowLines heads widths)
    ++ [frameLine '╰' '┴' '╯' widths]
  String.ofList (lines.intersperse ['\n']).flatten

end FleetDrift.Render
