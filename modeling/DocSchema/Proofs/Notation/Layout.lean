import DocSchema.Proofs.Notation.RoundTrip

/-!
# Layout

A line may be laid out in many ways: blanks of any kind around its colon, one line end
or another, and none at all after the last line.  A `Row` is a line with one such
choice, and `layout` is the text of rows.

Dividing the text gives back the rows, whatever their ends are (`split_layout`).  A
carriage return among the blanks stands before the type, so it is never taken for one
before a line feed.  And reading a line does not look at more than what it spells
(`readLines_eq_of_spelledBy`).  So the layout has no say in the result
(`reading_ignores_layout`).
-/
namespace DocSchema.Notation

/-- **A line in some layout.**  The gaps on either side of the colon are blanks, but no
line feeds; without a name, the first gap does not begin with a tab, which would count
for the depth. -/
structure Row where
  line : Line
  /-- What stands before the colon. -/
  before : List Char
  /-- What stands after the colon. -/
  after : List Char
  /-- A carriage return precedes the line feed at the end. -/
  hasReturn : Bool
  isFieldName : IsFieldName line.name
  isToken : IsToken line.token
  before_blank : ∀ c ∈ before, isBlank c = true ∧ c ≠ '\n'
  after_blank : ∀ c ∈ after, isBlank c = true ∧ c ≠ '\n'
  before_no_tab : line.name = "" → before.head? ≠ some '\t'

namespace Row

/-- The row without its end. -/
def write (row : Row) : List Char :=
  List.replicate row.line.depth '\t' ++ row.line.name.toList ++ row.before ++ [':'] ++ row.after ++
    row.line.token.toList

/-- The end of the row. -/
def ending (row : Row) : List Char := if row.hasReturn then ['\r', '\n'] else ['\n']

/-- A row spells its line. -/
theorem spells_write (row : Row) : row.line.Spells row.write := by
  refine ⟨row.before, row.after, by simp [write], fun c hc => (row.before_blank c hc).1,
    fun c hc => (row.after_blank c hc).1, ?_, row.isFieldName, row.isToken⟩
  by_cases hname : row.line.name = ""
  · rw [hname, String.toList_empty, List.nil_append]
    exact row.before_no_tab hname
  · -- The first character is one of the name, and no name holds a tab.
    have hne : row.line.name.toList ≠ [] := by simpa using hname
    rw [List.head?_append_of_ne_nil _ hne]
    intro htab
    exact row.isFieldName.ne_of_mem (List.mem_of_head? htab) (by decide) rfl

theorem newline_not_mem_write (row : Row) : '\n' ∉ row.write := by
  simp only [write, List.mem_append, List.mem_singleton, not_or]
  refine ⟨⟨⟨⟨⟨?_, ?_⟩, ?_⟩, by decide⟩, ?_⟩, ?_⟩
  · intro hmem
    exact absurd (List.eq_of_mem_replicate hmem) (by decide)
  · intro hmem
    exact row.isFieldName.ne_of_mem hmem (by decide) rfl
  · intro hmem
    exact (row.before_blank _ hmem).2 rfl
  · intro hmem
    exact (row.after_blank _ hmem).2 rfl
  · intro hmem
    exact absurd (row.isToken.chars _ hmem) (by decide)

end Row

/-- The text of rows.  The last one may go without its end. -/
def layout (ended : Bool) : List Row → List Char
  | [] => []
  | [row] => row.write ++ if ended then row.ending else []
  | row :: next :: rows => row.write ++ row.ending ++ layout ended (next :: rows)

/-! ## Rows as lines -/

/-- An ended row in front is the first line. -/
theorem split_ended (row : Row) (rest : List Char) :
    Lines.split '\n' '\r' (row.write ++ row.ending ++ rest) =
      row.write :: Lines.split '\n' '\r' rest := by
  obtain ⟨c, hlast, hblank⟩ := row.spells_write.exists_getLast?
  have hfeed := row.newline_not_mem_write
  by_cases hreturn : row.hasReturn = true
  · have hfeed' : '\n' ∉ row.write ++ ['\r'] := by simp [hfeed]
    have hcut := Lines.cut_append_feed '\n' _ rest hfeed'
    rw [Row.ending, if_pos hreturn, Lines.split]
    rw [List.append_assoc] at hcut
    simp only [List.append_assoc, List.cons_append, List.nil_append] at hcut ⊢
    rw [hcut]
    simp [Lines.dropReturn, Lines.split]
  · have hkeep : row.write.getLast? ≠ some '\r' := by
      rw [hlast]
      rintro ⟨⟩
      exact absurd hblank (by decide)
    have hcut := Lines.cut_append_feed '\n' _ rest hfeed
    rw [Row.ending, if_neg hreturn, List.append_assoc, List.singleton_append, Lines.split, hcut]
    simp [Lines.dropReturn, Lines.split, hkeep]

/-- **Dividing the text of rows gives the rows back.** -/
theorem split_layout (ended : Bool) (rows : List Row) :
    Lines.split '\n' '\r' (layout ended rows) = rows.map Row.write := by
  induction rows with
  | nil => rfl
  | cons row rows ih =>
    cases rows with
    | cons next rows => rw [layout, split_ended, ih, List.map_cons (l := next :: rows)]
    | nil =>
      cases ended with
      | true => simpa [layout] using split_ended row []
      | false =>
        have hne : row.write ≠ [] := by
          obtain ⟨c, hc, -⟩ := row.spells_write.exists_getLast?
          rintro hnil
          rw [hnil] at hc
          cases hc
        simp [layout, Lines.split, Lines.cut_of_not_mem _ _ row.newline_not_mem_write hne,
          Lines.dropReturn]

/-! ## Reading rows -/

/-- **Reading looks at no more than what lines spell.** -/
theorem readLines_eq_of_spelledBy {r : Registry} {number : Nat} {b : Building}
    {raw raw' : List (Option (List Char))} {ls : List Line} (h : List.Forall₂ SpelledBy raw ls)
    (h' : List.Forall₂ SpelledBy raw' ls) :
    readLines r number b raw = readLines r number b raw' := by
  induction h generalizing number b raw' with
  | nil =>
    cases h'
    rfl
  | cons hspelled _ ih =>
    cases h' with
    | cons hspelled' hrest' =>
      obtain ⟨text, rfl, hspells⟩ := hspelled
      obtain ⟨text', rfl, hspells'⟩ := hspelled'
      rw [readLines, readLines, readLine_of_spells hspells, readLine_of_spells hspells']
      split
      · rfl
      · exact ih hrest'

/-- The faults that a line can have although it spells a declaration: its depth or its type. -/
inductive IsFaultOf (number : Nat) (l : Line) : SchemaError → Prop where
  | indentation : IsFaultOf number l (.indentation number)
  | unknownType : IsFaultOf number l (.unknownType number l.token)
  | invalidPattern {pattern : String} : l.token = "Regex:" ++ pattern →
      IsFaultOf number l (.invalidPattern number pattern)

theorem isFaultOf_of_readLine {r : Registry} {number : Nat} {b : Building} {text : List Char}
    {l : Line} {e : SchemaError} (hspells : l.Spells text)
    (h : readLine r number b text = .error e) : IsFaultOf number l e := by
  rw [readLine_of_spells hspells] at h
  by_cases hdepth : b.frames.length < l.depth
  · rw [if_pos hdepth] at h
    obtain rfl := Except.error.inj h
    exact .indentation
  · rw [if_neg hdepth] at h
    cases hresolve : resolve r l.token with
    | ok d =>
      rw [hresolve] at h
      cases h
    | error fault =>
      rw [hresolve] at h
      obtain rfl := Except.error.inj h
      rcases resolve_eq_error_iff.mp hresolve with ⟨pattern, htoken, -, rfl⟩ | ⟨-, -, rfl⟩
      · exact .invalidPattern htoken
      · exact .unknownType

/-- **Reading lines that spell declarations fails for the depth or the type of one of them.** -/
theorem exists_isFaultOf_of_readLines {r : Registry} {number : Nat} {b : Building}
    {raw : List (Option (List Char))} {ls : List Line} (hspelled : List.Forall₂ SpelledBy raw ls)
    {e : SchemaError} (h : readLines r number b raw = .error e) :
    ∃ n l, ls[n]? = some l ∧ IsFaultOf (number + n) l e := by
  induction hspelled generalizing number b with
  | nil => cases h
  | @cons line l raw ls hline _ ih =>
    obtain ⟨text, rfl, hspells⟩ := hline
    rw [readLines] at h
    cases hread : readLine r number b text with
    | error e' =>
      rw [hread] at h
      obtain rfl := Except.error.inj h
      exact ⟨0, l, rfl, isFaultOf_of_readLine hspells hread⟩
    | ok b' =>
      rw [hread] at h
      obtain ⟨n, l', hl', hfault⟩ := ih h
      refine ⟨n + 1, l', hl', ?_⟩
      rwa [Nat.add_assoc, Nat.add_comm 1 n] at hfault

/-- **Layout does not matter.**  Lines in any layout are read like the same lines without
gaps, each ended by a line feed: as the same tree, or with the same error.  This is a
fault in the depth or in the type of a line, under its number. -/
theorem reading_ignores_layout (r : Registry) (rows : List Row) (ended : Bool) :
    read r (String.ofList (layout ended rows)) = read r (String.ofList (text (rows.map Row.line))) ∧
      ∀ e, read r (String.ofList (layout ended rows)) = .error e →
        ∃ n row, rows[n]? = some row ∧ IsFaultOf (n + 1) row.line e := by
  have hvalid : ∀ l ∈ rows.map Row.line, IsFieldName l.name ∧ IsToken l.token := by
    intro l hl
    obtain ⟨row, -, rfl⟩ := List.mem_map.mp hl
    exact ⟨row.isFieldName, row.isToken⟩
  have hplain : List.Forall₂ SpelledBy (linesOfText (text (rows.map Row.line)))
      (rows.map Row.line) := by
    rw [linesOfText_text hvalid]
    exact forall₂_spelledBy_write hvalid
  have hrows : List.Forall₂ SpelledBy (linesOfText (layout ended rows)) (rows.map Row.line) := by
    rw [linesOfText, split_layout, List.map_map, List.forall₂_map_left_iff,
      List.forall₂_map_right_iff, List.forall₂_same]
    exact fun row _ => ⟨row.write, rfl, row.spells_write⟩
  rw [read, read, String.toList_ofList, String.toList_ofList]
  refine ⟨?_, fun e he => ?_⟩
  · rw [readAll, readAll, readLines_eq_of_spelledBy hrows hplain]
  · obtain ⟨n, l, hl, hfault⟩ := exists_isFaultOf_of_readLines hrows (readAll_eq_error_iff.mp he)
    rw [List.getElem?_map, Option.map_eq_some_iff] at hl
    obtain ⟨row, hrow, rfl⟩ := hl
    exact ⟨n, row, hrow, by rwa [Nat.add_comm 1 n] at hfault⟩

end DocSchema.Notation
