import DocSchema.Text.Blank

/-!
# Tables of text

A column is as wide as its widest cell, in characters; the columns stand between vertical rules.
The columns are those of the headers: further cells of a row follow as they are.
-/
namespace DocSchema

/-- The headers of a table and its rows, each with any number of cells. -/
structure Table where
  headers : List String
  rows : List (List String)
deriving DecidableEq, Repr

namespace Table

/-- A cell with blanks up to a width. -/
def padTo (width : Nat) (cell : List Char) : List Char :=
  cell ++ List.replicate (width - cell.length) ' '

/-- Widens columns to the cells of a row. -/
def widen : List Nat → List String → List Nat
  | w :: widths, cell :: cells => max w cell.length :: widen widths cells
  | widths, _ => widths

/-- The width of each column. -/
def widths (t : Table) : List Nat := t.rows.foldl widen (t.headers.map String.length)

/-- The cells of a row, each as wide as its column. -/
def padded : List Nat → List String → List (List Char)
  | w :: widths, cell :: cells => padTo w cell.toList :: padded widths cells
  | [], cells => cells.map String.toList
  | _, [] => []

/-- A row with rules between its cells. -/
def line (widths : List Nat) (cells : List String) : List Char :=
  trimEnd ([' ', '│', ' '].intercalate (padded widths cells))

/-- The line below the headers, with crosses where it meets the rules. -/
def ruler (widths : List Nat) : List Char :=
  ['─', '┼', '─'].intercalate (widths.map fun w => List.replicate w '─')

/-- The line of the headers. -/
def header (t : Table) : List Char := line t.widths t.headers

/-- The lines below the headers. -/
def body (t : Table) : List (List Char) := ruler t.widths :: t.rows.map (line t.widths)

@[simp] theorem length_padTo (width : Nat) (cell : List Char) :
    (padTo width cell).length = max width cell.length := by
  simp only [padTo, List.length_append, List.length_replicate]
  omega

@[simp] theorem length_widen (widths : List Nat) (cells : List String) :
    (widen widths cells).length = widths.length := by
  induction widths generalizing cells with
  | nil => cases cells <;> rfl
  | cons w ws ih => cases cells <;> simp [widen, ih]

end Table
end DocSchema
