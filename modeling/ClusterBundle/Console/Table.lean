import ClusterBundle.Console.Width
import ClusterBundle.Text.Blank

/-!
Tables with rounded corners.

Every column is as wide as its widest cell and has a blank at either side. A cell may have several
lines; the lines of a row stand below each other, filled up at the right.
-/

namespace ClusterBundle.Console

/-- The lines of a cell. -/
def cellLines (cell : String) : List (List Char) := Text.splitChars '\n' cell.toList

def cellWidth (cell : String) : Nat := ((cellLines cell).map width).foldl max 0

def cellHeight (cell : String) : Nat := (cellLines cell).length

/-- A line of a cell filled up to the width of its column. -/
def fill (columnWidth : Nat) (line : List Char) : List Char :=
  line ++ List.replicate (columnWidth - width line) ' '

/-- The widths of the columns of rows that have the same number of cells. -/
def columnWidths (rows : List (List String)) : List Nat :=
  rows.foldl (fun widths row => List.zipWith max widths (row.map cellWidth))
    ((rows.headD []).map fun _ => 0)

/-- The line that is `index` lines below the top of a row. -/
def rowLine (widths : List Nat) (row : List String) (index : Nat) : List Char :=
  let cells := List.zipWith
    (fun columnWidth cell => ' ' :: fill columnWidth ((cellLines cell).getD index []) ++ [' '])
    widths row
  '│' :: (cells.flatMap fun cell => cell ++ ['│'])

def rowLines (widths : List Nat) (row : List String) : List (List Char) :=
  let height := (row.map cellHeight).foldl max 1
  (List.range height).map (rowLine widths row)

/-- A horizontal rule with its two ends and the mark between columns. -/
def rule (left middle right : Char) (widths : List Nat) : List Char :=
  let bars := widths.map fun columnWidth => List.replicate (columnWidth + 2) '─'
  left :: (List.intercalate [middle] bars ++ [right])

/-- A table whose first row is its head. -/
def table (head : List String) (rows : List (List String)) : String :=
  let widths := columnWidths (head :: rows)
  let lines :=
    [rule '╭' '┬' '╮' widths] ++ rowLines widths head ++ [rule '├' '┼' '┤' widths] ++
      rows.flatMap (rowLines widths) ++ [rule '╰' '┴' '╯' widths]
  String.ofList (List.intercalate ['\n'] lines)

end ClusterBundle.Console
