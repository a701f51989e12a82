import QueryPlayground.CommandLine.Terminal
import QueryPlayground.Text.Wrapping

/-!
Tables with a title and a rule under the header. Each column is as wide as the widest line of its cells, in
which tabs do not count; a line that turns out wider is broken between words.
-/
namespace QueryPlayground.CommandLine

structure Table where
  title : List Char
  header : List (List Char)
  rows : List (List (List Char))
  deriving Repr

namespace Table

/-- Whether a character ends a line. -/
def isLineEnd (c : Char) : Bool :=
  let n := c.toNat
  (0x0a ≤ n && n ≤ 0x0d) || (0x1c ≤ n && n ≤ 0x1e) || n == 0x85 || n == 0x2028 || n == 0x2029

/-- The width of a cell. -/
def cellWidth (cell : List Char) : Nat :=
  let lines := Text.pieces '\n' ((visible cell).map fun c => if isLineEnd c then '\n' else c)
  (lines.map Text.cells).foldl max 0

/-- The lines of a cell in a column of a width. -/
def lines (width : Nat) (cell : List Char) : List (List Char) :=
  (Text.pieces '\n' (visible cell)).flatMap fun line => Text.wrapped width (withoutTabs 0 line)

/-- The widths of the columns. -/
def widths (table : Table) : List Nat :=
  table.rows.foldl (fun widths row => List.zipWith max widths (row.map cellWidth))
    (table.header.map cellWidth)

/-- A line of a row, with a space on both sides of each cell and between the cells. -/
def rowLine (widths : List Nat) (cells : List (List Char)) : List Char :=
  ' ' :: (List.zipWith (fun width cell => ' ' :: (Text.padded width cell ++ [' ', ' '])) widths cells).flatten

/-- The lines of a row; shorter cells are filled up with empty lines. -/
def rowLines (widths : List Nat) (row : List (List Char)) : List (List Char) :=
  let columns := List.zipWith lines widths row
  let height := (columns.map List.length).foldl max 1
  (List.range height).map fun i => rowLine widths (columns.map fun column => column.getD i [])

/-- The cells that a row takes, its edges included. -/
def totalWidth (widths : List Nat) : Nat := widths.foldr (· + 3 + ·) 1

/-- The text of a table. -/
def text (table : Table) : List Char :=
  let widths := table.widths
  let total := totalWidth widths
  let blank := List.replicate total ' '
  let rule := ' ' :: (List.replicate (total - 2) '─' ++ [' '])
  let all := [Text.centred total table.title, blank] ++ rowLines widths table.header ++ [rule] ++
    table.rows.flatMap (rowLines widths) ++ [blank]
  all.flatMap fun line => line ++ ['\n']

end Table
end QueryPlayground.CommandLine
