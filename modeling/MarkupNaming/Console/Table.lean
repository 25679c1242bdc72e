import MarkupNaming.Console.Wrapping
import MarkupNaming.Text.Lines

/-!
# Tables

Tables in boxes of single lines. A column is as wide as the widest line of its cells, its header
included, with a space on either side. The title stands centred above the box.
-/
namespace MarkupNaming.Console
open Text

/-- A title, the headers of the columns, and rows of as many cells. -/
structure Table where
  title : Text
  headers : List Text
  rows : List (List Text) := []

namespace Table

/-- The width of the widest line of a cell. -/
def cellWidth (cell : Text) : Nat :=
  ((splitAll isLineBoundary (harmless cell)).map cells).foldl max 0

/-- The widths of the columns without their margins. -/
def widths (t : Table) : List Nat :=
  t.headers.zipIdx.map fun (header, i) =>
    max 1 ((header :: t.rows.map fun row => row.getD i []).map cellWidth |>.foldl max 0)

/-- The width of the whole table: the columns, their margins and the lines between them. -/
def width (t : Table) : Nat := t.widths.foldl (fun total w => total + w + 3) 1

/-- A horizontal line with its ends and its crossings. -/
def rule (t : Table) (left middle right : Code) : Text :=
  left :: join [middle] (t.widths.map fun w => List.replicate (w + 2) (Code.char '─')) ++ [right]

/-- The lines of a row. -/
def rowLines (t : Table) (row : List Text) : List Text :=
  let columns := (t.widths.zip row).map fun (w, cell) => (w, columnLines w cell)
  let height := (columns.map (·.2.length)).foldl max 1
  (List.range height).map fun i : Nat =>
    .char '│' :: join [.char '│'] (columns.map fun (w, lines) =>
      .char ' ' :: lines.getD i (List.replicate w (Code.char ' ')) ++ [Code.char ' ']) ++
        [Code.char '│']

/-- The lines of a table. -/
def lines (t : Table) : List Text :=
  centeredLines t.width t.title ++ t.rule '┌' '┬' '┐' :: t.rowLines t.headers ++
    t.rule '├' '┼' '┤' :: t.rows.flatMap t.rowLines ++ [t.rule '└' '┴' '┘']

/-- A table as a console writes it. -/
def text (t : Table) : Text := t.lines.flatMap (· ++ [Code.char '\n'])

end Table
end MarkupNaming.Console
