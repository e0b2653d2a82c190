import DocSchema.Report.Console
import DocSchema.Proofs.Notation.Line
import Mathlib.Algebra.BigOperators.Group.Finset.Basic

/-!
# The columns of a table

A table has one column for each header.  A column is as wide as the longest of its
cells, the header among them (`Table.columnWidth`), and three characters stand between
two columns, so the place of a column and that of the rule after it are sums of widths
(`Table.columnStart`, `Table.ruleAfter`).

Every line of a table is made of parts that are joined, and the parts have the widths of
the columns (`Table.Fills`): cells with blanks after them in the lines of the headers and
of the rows, dashes in the line between them.  What is joined from such parts has each
part where its column starts, and each rule where the rules of the other lines are
(`Table.Fills.prefix_drop`, `Table.Fills.getElem?_ruleAfter`).  Trimming takes blanks from
the end of a line and leaves the rules alone (`getElem?_trimEnd`).

A row may have fewer cells than there are headers, and then it ends early, or more, and
then what is behind the last column stands there as it is.
-/
namespace DocSchema

/-! ## Joined and trimmed texts -/

/-- What stands before a part of a joined text. -/
theorem intercalate_append_cons {α : Type} (sep : List α) (xs : List (List α)) (p : List α)
    (ys : List (List α)) :
    sep.intercalate (xs ++ p :: ys) = xs.flatMap (· ++ sep) ++ sep.intercalate (p :: ys) := by
  induction xs with
  | nil => rfl
  | cons x xs ih =>
    have hrest : xs ++ p :: ys ≠ [] := List.append_ne_nil_of_right_ne_nil xs (List.cons_ne_nil p ys)
    rw [List.cons_append, List.intercalate_cons_of_ne_nil hrest, ih, List.flatMap_cons,
      List.append_assoc (x ++ sep)]

/-- Trimming leaves what is no blank where it is. -/
theorem getElem?_trimEnd {s : List Char} {i : Nat} {c : Char} (h : s[i]? = some c)
    (hc : isBlank c = false) : (trimEnd s)[i]? = some c := by
  obtain ⟨gap, hs, hgap⟩ := exists_trimEnd_append s
  rw [hs] at h
  by_cases hi : i < (trimEnd s).length
  · rwa [List.getElem?_append_left hi] at h
  · rw [List.getElem?_append_right (Nat.le_of_not_lt hi)] at h
    rw [hgap c (List.mem_of_getElem? h)] at hc
    cases hc

namespace Table

/-! ## Where the columns stand -/

/-- The cells of a column: its header and what the rows have below it. -/
def column (t : Table) (j : Nat) : List String := (t.headers :: t.rows).filterMap (·[j]?)

/-- The length of the longest cell of a column. -/
def columnWidth (t : Table) (j : Nat) : Nat := ((t.column j).map String.length).max?.getD 0

/-- Where a column starts. -/
def columnStart (t : Table) (j : Nat) : Nat := (∑ i ∈ Finset.range j, t.columnWidth i) + 3 * j

/-- Where the rule after a column stands. -/
def ruleAfter (t : Table) (j : Nat) : Nat :=
  (∑ i ∈ Finset.range (j + 1), t.columnWidth i) + 3 * j + 1

/-- **A text with the cells of a row in their columns**: a rule after each column behind
which the row goes on, and where a column starts its cell, with spaces up to the width of
the column.  The blanks at the end of the text may be missing. -/
structure InColumns (t : Table) (cells : List String) (text : List Char) : Prop where
  rules : ∀ j < t.headers.length, j + 1 < cells.length → text[t.ruleAfter j]? = some '│'
  places : ∃ blanks : List Char, (∀ c ∈ blanks, isBlank c = true) ∧
    ∀ j < t.headers.length, ∀ cell, cells[j]? = some cell →
      cell.toList ++ List.replicate (t.columnWidth j - cell.length) ' ' <+:
        (text ++ blanks).drop (t.columnStart j)

theorem columnStart_succ (t : Table) (j : Nat) :
    t.columnStart (j + 1) = t.columnStart j + t.columnWidth j + 3 := by
  rw [columnStart, columnStart, Finset.sum_range_succ]
  omega

theorem ruleAfter_eq (t : Table) (j : Nat) :
    t.ruleAfter j = t.columnStart j + (t.columnWidth j + 1) := by
  rw [ruleAfter, columnStart, Finset.sum_range_succ]
  omega

/-- No cell is wider than its column. -/
theorem length_le_columnWidth {t : Table} {cells : List String}
    (hcells : cells ∈ t.headers :: t.rows) {j : Nat} {cell : String} (h : cells[j]? = some cell) :
    cell.length ≤ t.columnWidth j := by
  have hmem : cell ∈ t.column j := List.mem_filterMap.mpr ⟨cells, hcells, h⟩
  exact List.le_max?_getD_of_mem (List.mem_map_of_mem hmem)

/-! ## The widths that a table finds -/

/-- One row widens a column to its cell there. -/
theorem getElem?_widen (widths : List Nat) (cells : List String) (j : Nat) :
    (widen widths cells)[j]? =
      widths[j]?.map fun w => (cells[j]?.toList.map String.length).foldl max w := by
  induction widths generalizing cells j with
  | nil => cases cells <;> rfl
  | cons w widths ih =>
    cases cells with
    | nil => simp [widen]
    | cons cell cells =>
      cases j with
      | zero => rfl
      | succ j => simpa only [widen, List.getElem?_cons_succ] using ih cells j

/-- All rows together widen a column to the longest of their cells there. -/
theorem getElem?_foldl_widen (rows : List (List String)) (widths : List Nat) (j : Nat) :
    (rows.foldl widen widths)[j]? =
      widths[j]?.map fun w => ((rows.filterMap (·[j]?)).map String.length).foldl max w := by
  induction rows generalizing widths with
  | nil => simp
  | cons cells rows ih =>
    rw [List.foldl_cons, ih, getElem?_widen, Option.map_map]
    refine congrArg (widths[j]?.map ·) (funext fun w => ?_)
    cases hcell : cells[j]? <;> simp [hcell]

theorem getElem?_widths {t : Table} {j : Nat} (h : j < t.headers.length) :
    t.widths[j]? = some (t.columnWidth j) := by
  have hheader : t.headers[j]? = some t.headers[j] := List.getElem?_eq_getElem h
  have hcolumn : t.column j = t.headers[j] :: t.rows.filterMap (·[j]?) :=
    List.filterMap_cons_some hheader
  rw [widths, getElem?_foldl_widen, List.getElem?_map, hheader, columnWidth, hcolumn, List.map_cons,
    List.max?_cons']
  rfl

theorem length_foldl_widen (rows : List (List String)) (widths : List Nat) :
    (rows.foldl widen widths).length = widths.length := by
  induction rows generalizing widths with
  | nil => rfl
  | cons cells rows ih => rw [List.foldl_cons, ih, length_widen]

theorem length_widths (t : Table) : t.widths.length = t.headers.length := by
  rw [widths, length_foldl_widen, List.length_map]

/-! ## Parts as wide as the columns -/

/-- Parts of a line as wide as the columns that they stand in. -/
def Fills (t : Table) (parts : List (List Char)) : Prop :=
  ∀ j < t.headers.length, ∀ part, parts[j]? = some part → part.length = t.columnWidth j

namespace Fills
variable {t : Table} {parts : List (List Char)} {j : Nat}

/-- The parts before a column end where it starts. -/
theorem length_before (h : t.Fills parts) {sep : List Char} (hsep : sep.length = 3)
    (hheader : j ≤ t.headers.length) (hpart : j ≤ parts.length) :
    ((parts.take j).flatMap (· ++ sep)).length = t.columnStart j := by
  induction j with
  | zero => rfl
  | succ j ih =>
    have hwidth := h j hheader _ (List.getElem?_eq_getElem hpart)
    rw [← List.take_append_getElem hpart, List.flatMap_append, List.length_append,
      ih (Nat.le_of_succ_le hheader) (Nat.le_of_succ_le hpart), columnStart_succ,
      List.flatMap_singleton, List.length_append, hwidth, hsep, Nat.add_assoc]

/-- What is joined from the parts, from the start of a column on. -/
theorem drop_intercalate (h : t.Fills parts) {sep : List Char} (hsep : sep.length = 3)
    (hheader : j < t.headers.length) {part : List Char} (hpart : parts[j]? = some part) :
    (sep.intercalate parts).drop (t.columnStart j) =
      sep.intercalate (part :: parts.drop (j + 1)) := by
  obtain ⟨hlt, rfl⟩ := List.getElem?_eq_some_iff.mp hpart
  have hjoined : sep.intercalate parts = (parts.take j).flatMap (· ++ sep) ++
      sep.intercalate (parts[j] :: parts.drop (j + 1)) := by
    rw [← intercalate_append_cons, ← List.drop_eq_getElem_cons hlt, List.take_append_drop]
  rw [hjoined, ← h.length_before hsep (Nat.le_of_lt hheader) (Nat.le_of_lt hlt)]
  exact List.drop_left

/-- **A part stands where its column starts.** -/
theorem prefix_drop (h : t.Fills parts) {sep : List Char} (hsep : sep.length = 3)
    (hheader : j < t.headers.length) {part : List Char} (hpart : parts[j]? = some part) :
    part <+: (sep.intercalate parts).drop (t.columnStart j) := by
  rw [h.drop_intercalate hsep hheader hpart]
  cases parts.drop (j + 1) with
  | nil => exact List.intercalate_singleton ▸ List.prefix_rfl
  | cons next rest =>
    rw [List.intercalate_cons_cons, List.append_assoc]
    exact List.prefix_append part _

/-- **The rule after a column stands at one place in all lines** that go on behind it. -/
theorem getElem?_ruleAfter (h : t.Fills parts) (hheader : j < t.headers.length)
    (hnext : j + 1 < parts.length) (before rule after : Char) :
    ([before, rule, after].intercalate parts)[t.ruleAfter j]? = some rule := by
  have hpart := List.getElem?_eq_getElem (Nat.lt_of_succ_lt hnext)
  have hwidth := h j hheader _ hpart
  have hsep : [before, rule, after].length = 3 := rfl
  have hdrop := h.drop_intercalate hsep hheader hpart
  rw [List.drop_eq_getElem_cons hnext, List.intercalate_cons_cons, List.append_assoc] at hdrop
  -- From the start of the column on, the rule is the second character behind the part.
  rw [ruleAfter_eq, ← List.getElem?_drop, hdrop, ← hwidth, List.getElem?_append_right (by omega)]
  simp

end Fills

/-! ## The lines of a table -/

theorem getElem?_padded {widths : List Nat} {cells : List String} {j w : Nat}
    (h : widths[j]? = some w) :
    (padded widths cells)[j]? = cells[j]?.map fun cell => padTo w cell.toList := by
  induction widths generalizing cells j with
  | nil => cases h
  | cons width widths ih =>
    cases cells with
    | nil => rfl
    | cons cell cells =>
      cases j with
      | zero =>
        obtain rfl := Option.some.inj h
        rfl
      | succ j => simpa only [padded, List.getElem?_cons_succ] using ih h

theorem length_padded (widths : List Nat) (cells : List String) :
    (padded widths cells).length = cells.length := by
  induction widths generalizing cells with
  | nil => cases cells <;> simp [padded]
  | cons width widths ih => cases cells <;> simp [padded, ih]

/-- Padded cells are as wide as their columns, since none was wider before. -/
theorem fills_padded {t : Table} {cells : List String} (hcells : cells ∈ t.headers :: t.rows) :
    t.Fills (padded t.widths cells) := by
  intro j hj part hpart
  rw [getElem?_padded (getElem?_widths hj)] at hpart
  obtain ⟨cell, hcell, rfl⟩ := Option.map_eq_some_iff.mp hpart
  rw [length_padTo, String.length_toList]
  exact Nat.max_eq_left (length_le_columnWidth hcells hcell)

theorem fills_ruler (t : Table) : t.Fills (t.widths.map fun w => List.replicate w '─') := by
  intro j hj part hpart
  rw [List.getElem?_map, getElem?_widths hj] at hpart
  obtain rfl := Option.some.inj hpart
  exact List.length_replicate

/-- **The headers and the rows stand in the columns.** -/
theorem inColumns_line {t : Table} {cells : List String} (hcells : cells ∈ t.headers :: t.rows) :
    t.InColumns cells (line t.widths cells) := by
  have hfills := fills_padded hcells
  constructor
  · intro j hj hnext
    rw [← length_padded t.widths cells] at hnext
    exact getElem?_trimEnd (hfills.getElem?_ruleAfter hj hnext ' ' '│' ' ') (by decide)
  · obtain ⟨blanks, hline, hblanks⟩ :=
      exists_trimEnd_append ([' ', '│', ' '].intercalate (padded t.widths cells))
    refine ⟨blanks, hblanks, fun j hj cell hcell => ?_⟩
    have hpart : (padded t.widths cells)[j]? = some (padTo (t.columnWidth j) cell.toList) := by
      rw [getElem?_padded (getElem?_widths hj), hcell]
      rfl
    rw [line, ← hline]
    exact hfills.prefix_drop rfl hj hpart

/-- **The line below the headers has a cross below each of their rules.** -/
theorem getElem?_ruler {t : Table} {j : Nat} (h : j + 1 < t.headers.length) :
    (ruler t.widths)[t.ruleAfter j]? = some '┼' := by
  refine t.fills_ruler.getElem?_ruleAfter (Nat.lt_of_succ_lt h) ?_ '─' '┼' '─'
  rwa [List.length_map, length_widths]

end Table

/-- What a console for people writes of a table, if it has no colours. -/
theorem Console.toList_table {c : Console} (hshown : c.isTalkative) (hplain : c.color = false)
    (t : Table) : (c.table t).toList = (t.header :: t.body).flatMap (· ++ ['\n']) := by
  have hstyled (text : String) : c.styled .bold text text = text := if_neg (by simp [hplain])
  rw [table, if_pos hshown, hstyled, String.toList_append, String.toList_join, List.flatMap_map,
    List.flatMap_cons]
  simp only [line, String.toList_append, String.toList_ofList]
  rfl

/-- **A table stands in columns.**  For people who get no colours it is a line with the
headers, a line of dashes, and a line for each row.  The rules between the headers, the
crosses between the dashes and the rules of the rows stand at the same places, which are
those that the widths of the columns give; and so do the cells of each column. -/
theorem table_stands_in_columns (t : Table) :
    (({ format := .human, color := false, quiet := false } : Console).table t).toList =
        (t.header :: Table.ruler t.widths :: t.rows.map (Table.line t.widths)).flatMap
          (· ++ ['\n']) ∧
      t.InColumns t.headers t.header ∧
      (∀ j, j + 1 < t.headers.length → (Table.ruler t.widths)[t.ruleAfter j]? = some '┼') ∧
      ∀ cells ∈ t.rows, t.InColumns cells (Table.line t.widths cells) := by
  refine ⟨Console.toList_table rfl rfl t, ?_, fun j => Table.getElem?_ruler, fun cells hcells => ?_⟩
  · exact Table.inColumns_line List.mem_cons_self
  · exact Table.inColumns_line (List.mem_cons_of_mem _ hcells)

/-- A row that ends early, and one that goes on behind the last column. -/
example : ({} : Console).table ⟨["Path", "Type"], [["é"], ["model", "", "x"]]⟩ =
    "Path  │ Type\n──────┼─────\né\nmodel │      │ x\n" := by decide

end DocSchema
