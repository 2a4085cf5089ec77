/-
Tables in box-drawing characters.

* `Table`: a head and rows of cells;
* `Table.render`: the lines of a table, each column as wide as its widest line.

A cell may have several lines; its row is then as high as the highest cell.
-/
import RecordRules.Text.CodeTable
import RecordRules.Text.Width

namespace RecordRules

/-- A head and rows, each with one cell for every column. -/
structure Table where
  head : List String
  rows : List (List String)
  deriving DecidableEq, Repr

namespace Table

/-- The lines of a cell. -/
def cellLines (cell : String) : List (List Char) := splitChars '\n' cell.toList

/-- The width of a cell. -/
def cellWidth (cell : String) : Nat := (cellLines cell).foldl (fun n line => max n (Text.displayWidth line)) 0

/-- The widths of the columns. -/
def columnWidths (table : Table) : List Nat :=
  table.rows.foldl (fun widths row => List.zipWith (fun w cell => max w (cellWidth cell)) widths row)
    (table.head.map cellWidth)

/-- The characters of a horizontal rule: at its left, between cells, at its
right, and along it. -/
structure RuleStyle where
  left : Char
  cross : Char
  right : Char
  along : Char

/-- The rule above the head. -/
def topRule : RuleStyle := ⟨'╭', '┬', '╮', '─'⟩

/-- The rule below the head. -/
def headRule : RuleStyle := ⟨'╞', '╪', '╡', '═'⟩

/-- The rule below the rows. -/
def bottomRule : RuleStyle := ⟨'╰', '┴', '╯', '─'⟩

/-- A horizontal rule; cells have a blank at each side. -/
def RuleStyle.line (style : RuleStyle) (widths : List Nat) : List Char :=
  let runs := widths.map fun w => List.replicate (w + 2) style.along
  style.left :: (runs.intersperse [style.cross]).flatten ++ [style.right]

/-- The line of a cell, filled up with blanks. -/
def padded (width : Nat) (line : List Char) : List Char :=
  ' ' :: line ++ List.replicate (width - Text.displayWidth line) ' ' ++ [' ']

/-- One line of a row. -/
def rowLine (widths : List Nat) (lines : List (List Char)) : List Char :=
  '│' :: ((List.zipWith padded widths lines).intersperse ['┆']).flatten ++ ['│']

/-- The lines of a row. -/
def rowLines (widths : List Nat) (row : List String) : List (List Char) :=
  let cells := row.map cellLines
  let height := cells.foldl (fun n lines => max n lines.length) 0
  (List.range height).map fun i => rowLine widths (cells.map fun lines => lines.getD i [])

/-- The lines of a table. -/
def lines (table : Table) : List (List Char) :=
  let widths := table.columnWidths
  [topRule.line widths] ++ rowLines widths table.head ++ [headRule.line widths] ++
    table.rows.flatMap (rowLines widths) ++ [bottomRule.line widths]

/-- The text of a table, without a line end after the last line. -/
def render (table : Table) : String := String.intercalate "\n" (table.lines.map String.ofList)

end Table

end RecordRules
