import ViewGen.Console.Layout
import ViewGen.Console.Markup
import ViewGen.Libraries

/-!
# Drawing tables

A table has a title above a box with a heavy frame around its headings.
-/

namespace ViewGen

namespace Table

/-- The cells that a text needs when none of its lines is cut. -/
def measure (s : List Char) : Nat :=
  ((Text.linesFrom [] s).map Text.cells).foldl max 0

/-- The width of every column, with a blank on each side. -/
def widths (rows : List (List (List Char))) : List Nat :=
  rows.foldl (fun found row => (List.range row.length).map fun i =>
    max (found.getD i 0) (measure (row.getD i []) + 2)) []

/-- A line of the frame. -/
def rule (left fill middle right : Char) (widths : List Nat) : List Char :=
  left :: [middle].intercalate (widths.map fun width => List.replicate width fill) ++ [right]

/-- The lines of one cell, with a blank on each side. -/
def cellLines (width : Nat) (s : List Char) : List (List Char) :=
  (Layout.lines (width - 2) .mark .left s).map fun line => ' ' :: line ++ [' ']

/-- The lines of a row: as many as its highest cell has. -/
def rowLines (bar : Char) (widths : List Nat) (row : List (List Char)) : List (List Char) :=
  let columns := widths.zip (List.zipWith cellLines widths row)
  let height := (columns.map (·.2.length)).foldl max 1
  (List.range height).map fun n =>
    bar :: [bar].intercalate (columns.map fun (width, lines) =>
      lines.getD n (List.replicate width ' ')) ++ [bar]

/-- The lines of a table. -/
def lines (table : Table (List Char)) : List (List Char) :=
  let widths := widths (table.headings :: table.rows)
  let total := widths.foldr (· + ·) 0 + widths.length + 1
  (table.title.map (Layout.lines total .fold .centre)).getD [] ++
    [rule '┏' '━' '┳' '┓' widths] ++
    rowLines '┃' widths table.headings ++
    [rule '┡' '━' '╇' '┩' widths] ++
    table.rows.flatMap (rowLines '│' widths) ++
    [rule '└' '─' '┴' '┘' widths]

end Table

end ViewGen
