import CodeGraph.Terminal.Cells
import CodeGraph.Terminal.Markup

/-!
# Tables

A table has a title, a header and rows of markup. A column is as wide as its widest cell asks for; a
cell that needs several lines makes its row as high.

## Main definitions

* `Terminal.Table`: a table.
* `Terminal.Table.lines`: the lines of a table, each as its cells.
-/

namespace CodeGraph.Terminal

/-- A table of markup. -/
structure Table where
  title : String
  header : List String
  rows : List (List String)
deriving DecidableEq, Repr, Inhabited

/-- The widths of columns, from the plain texts of all rows. -/
def columnWidths (columns : Nat) (rows : List (List String)) : List Nat :=
  (List.range columns).map fun i => widest (rows.map fun row => measure (row.getD i ""))

/-- The lines of a row: cells that are used up leave empty texts. -/
def rowLines (widths : List Nat) (row : List String) : List (List String) :=
  let wrapped := (row.zip widths).map fun (cell, width) => wrap width cell
  let height := widest (wrapped.map List.length)
  (List.range height).map fun i => wrapped.map fun cell => cell.getD i ""

/-- The lines of a table, each as its cells, the title first; or why there are none. -/
def Table.lines (t : Table) : Except Markup.Fault (List (List String)) := do
  let title ← Markup.render t.title
  let rows ← (t.header :: t.rows).mapM fun row => row.mapM Markup.render
  let widths := columnWidths t.header.length rows
  return [title] :: rows.flatMap (rowLines widths)

end CodeGraph.Terminal
