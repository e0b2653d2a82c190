import DocSchema.Proofs.Notation.Declaring

/-!
# The fields of a schema, line by line

The report on a schema goes through its tree and hands the path of each object down to
its fields.  The canonical text of the schema goes through the same tree and hands the
depth down.  So the report lists one field for each line, and the path of a field can be
told from the lines: a line goes on from the nearest line before it that is one tab less
deep.

`Declaration.ofLines` rebuilds the report in this way.  While it goes through the lines it
keeps the stems that names at each depth go on from.  Two facts about the stems make up
the proof.  They are what the tree hands down (`ofLines_fieldLines`, by induction on the
tree), and the stem at a depth is that of the last line of this depth (`Tracks`, preserved
by each line).
-/
namespace DocSchema

/-! ## Fields from lines -/

namespace Declaration

/-- What the names below a line go on from: its path, with the mark of an array if its
type is one. -/
def stem (path token : String) : String :=
  path ++ if arraySuffix.toList.isSuffixOf token.toList then arraySuffix else ""

/-- The path of a line, from the stems at the depths above it. -/
def pathOf (stems : List String) (l : Line) : String :=
  join ((stems.take l.depth).getLastD "") l.name

/-- The stems after a line. -/
def stemsAfter (stems : List String) (l : Line) : List String :=
  stems.take l.depth ++ [stem (pathOf stems l) l.token]

/-- The fields that lines tell of, from the stems before them. -/
def ofLines (stems : List String) : List Line → List Declaration
  | [] => []
  | l :: ls => ⟨pathOf stems l, l.token⟩ :: ofLines (stemsAfter stems l) ls

/-- The fields that the lines of a text tell of. -/
def ofText (text : String) : List Declaration := ofLines [] (Notation.declarations text)

@[simp] theorem length_ofLines (stems : List String) (ls : List Line) :
    (ofLines stems ls).length = ls.length := by
  induction ls generalizing stems with
  | nil => rfl
  | cons l ls ih => rw [ofLines, List.length_cons, List.length_cons, ih]

theorem stem_array (path base : String) :
    stem path (base ++ arraySuffix) = path ++ arraySuffix := by
  have hsuffix : arraySuffix.toList.isSuffixOf (base ++ arraySuffix).toList = true := by
    rw [String.toList_append, List.isSuffixOf_iff_suffix]
    exact List.suffix_append _ _
  rw [stem, if_pos hsuffix]

theorem stem_of_ne {token : String} (h : ∀ base, token ≠ base ++ arraySuffix) (path : String) :
    stem path token = path := by
  have hsuffix : ¬ arraySuffix.toList.isSuffixOf token.toList = true := by
    intro hsuffix
    obtain ⟨front, hfront⟩ := List.isSuffixOf_iff_suffix.mp hsuffix
    apply h (String.ofList front)
    apply String.toList_injective
    rw [String.toList_append, String.toList_ofList, hfront]
  rw [stem, if_neg hsuffix, String.append_empty]

/-! ## Stems are what the tree hands down -/

/-- The lines below a field rebuild what the report lists below it, and leave the stems
above the field as they were. -/
def IsRebuilt (v : Validator) : Prop :=
  ∀ (above : List String) (path : String), ∃ after, above <+: after ∧ ∀ rest,
    ofLines (above ++ [stem path v.token]) (Notation.innerLines (above.length + 1) v ++ rest) =
      below path v ++ ofLines after rest

theorem pathOf_of_prefix {above stems : List String} (h : above <+: stems) (name token : String) :
    pathOf stems ⟨above.length, name, token⟩ = join (above.getLastD "") name := by
  rw [pathOf, ← List.prefix_iff_eq_take.mp h]

/-- **Written fields are rebuilt** below the stem that the report hands down. -/
theorem ofLines_fieldLines {fields : List (String × Validator)}
    (hfields : ∀ f ∈ fields, IsRebuilt f.2) {above stems : List String} (hstems : above <+: stems) :
    ∃ after, above <+: after ∧ ∀ rest,
      ofLines stems (Notation.fieldLines above.length fields ++ rest) =
        ofFields (above.getLastD "") fields ++ ofLines after rest := by
  induction fields generalizing stems with
  | nil => exact ⟨stems, hstems, fun rest => by simp [Notation.fieldLines, ofFields]⟩
  | cons f fields ih =>
    obtain ⟨name, v⟩ := f
    rw [List.forall_mem_cons] at hfields
    obtain ⟨hv, hrest⟩ := hfields
    -- The lines below the field start from its stem and give the stems above it back.
    obtain ⟨inner, hinner, hbelow⟩ := hv above (join (above.getLastD "") name)
    obtain ⟨after, hafter, hothers⟩ := ih hrest hinner
    refine ⟨after, hafter, fun rest => ?_⟩
    have hpath := pathOf_of_prefix hstems name v.token
    have hnext : stemsAfter stems ⟨above.length, name, v.token⟩ =
        above ++ [stem (join (above.getLastD "") name) v.token] := by
      rw [stemsAfter, hpath, ← List.prefix_iff_eq_take.mp hstems]
    rw [Notation.fieldLines, List.cons_append, ofLines, hpath, hnext, List.append_assoc, hbelow,
      hothers, ofFields, List.cons_append, List.append_assoc]

theorem isRebuilt_of_expressible {r : Registry} {v : Validator} (h : Notation.Expressible r v) :
    IsRebuilt v := by
  have hbase : ∀ {hook}, Notation.IsKindHook r hook →
      ∀ base, Hook.token hook ≠ base ++ arraySuffix := by
    intro hook hhook
    cases hhook with
    | plain => exact Notation.beforeSuffix?_eq_none_iff.mp (by decide)
    | kind hget => exact (Notation.isKindName_of_get? hget).array
  have hleaf : ∀ {v : Validator}, (∀ depth, Notation.innerLines depth v = []) →
      (∀ path, below path v = []) → IsRebuilt v := by
    intro v hlines hbelow above path
    refine ⟨above ++ [stem path v.token], List.prefix_append above _, fun rest => ?_⟩
    rw [hlines, hbelow, List.nil_append, List.nil_append]
  induction h with
  | string | boolean | int | pattern _ | element _ | elements _ =>
    exact hleaf (fun _ => rfl) (fun _ => rfl)
  | @object hook fields hhook hnames _ ih =>
    intro above path
    have hstem : stem path (Validator.object hook fields).token = path :=
      stem_of_ne (hbase hhook) path
    obtain ⟨after, hafter, hlines⟩ := ofLines_fieldLines ih (List.prefix_refl (above ++ [path]))
    refine ⟨after, (List.prefix_append above [path]).trans hafter, fun rest => ?_⟩
    rw [hstem, Notation.innerLines, below]
    simpa using hlines rest
  | @objects hook fields hhook hnames _ ih =>
    intro above path
    have hstem : stem path (Validator.array (.object hook fields)).token = path ++ arraySuffix :=
      stem_array path _
    obtain ⟨after, hafter, hlines⟩ :=
      ofLines_fieldLines ih (List.prefix_refl (above ++ [path ++ arraySuffix]))
    refine ⟨after, (List.prefix_append above _).trans hafter, fun rest => ?_⟩
    rw [hstem, Notation.innerLines, below]
    simpa using hlines rest

/-- **The report is rebuilt from the lines of its schema.** -/
theorem ofLines_of_isExpressible {r : Registry} {o : ObjectValidator}
    (h : Notation.IsExpressible r o) :
    ofLines [] (Notation.fieldLines 0 o.fields) = ofSchema ⟨o⟩ := by
  obtain ⟨after, -, hlines⟩ := ofLines_fieldLines
    (fun f hf => isRebuilt_of_expressible (h.fields f hf)) (List.prefix_refl [])
  have hall := hlines []
  rwa [List.append_nil, ofLines, List.append_nil] at hall

/-! ## Stems are those of the last lines -/

/-- **A line stands below another one**: this is the nearest of the lines before it that are
one tab less deep. -/
structure IsBelow (ls : List Line) (n m : Nat) (l above : Line) : Prop where
  line_eq : ls[n]? = some l
  above_eq : ls[m]? = some above
  before : m < n
  depth_eq : above.depth + 1 = l.depth
  nearest : ∀ k between, m < k → k < n → ls[k]? = some between → between.depth ≠ above.depth

/-- **A field as its line tells it.**  Its type is that of the line.  Without tabs its path
is the name; otherwise the name goes on from the stem of the line above, after a dot if
there is anything to go on from. -/
structure IsToldBy (ls : List Line) (fields : List Declaration) (n : Nat) (l : Line)
    (d : Declaration) : Prop where
  type_eq : d.type = l.token
  root : l.depth = 0 → d.path = l.name
  nested : 0 < l.depth → ∃ m above field start, IsBelow ls n m l above ∧ fields[m]? = some field ∧
    start = stem field.path above.token ∧
    d.path = if start = "" then l.name else start ++ "." ++ l.name

/-- No line is more than one tab deeper than the line before it. -/
def Climb (room : Nat) : List Line → Prop
  | [] => True
  | l :: ls => l.depth ≤ room ∧ Climb (l.depth + 1) ls

/-- A line is the last one of its depth. -/
structure IsLastOfDepth (ls : List Line) (m : Nat) (l : Line) : Prop where
  line_eq : ls[m]? = some l
  last : ∀ k later, m < k → ls[k]? = some later → later.depth ≠ l.depth

/-- **What stems say of the lines before**: the stem at a depth is that of the last line of
this depth. -/
structure Tracks (seen : List Line) (told : List Declaration) (stems : List String) : Prop where
  length_eq : told.length = seen.length
  last : ∀ (k : Nat) (s : String), stems[k]? = some s → ∃ (m : Nat) (l : Line) (d : Declaration),
    IsLastOfDepth seen m l ∧ told[m]? = some d ∧ l.depth = k ∧ s = stem d.path l.token

/-- What stands at an index stays there when a list grows. -/
theorem getElem?_append_of_eq_some {α : Type} {xs : List α} {n : Nat} {x : α} (h : xs[n]? = some x)
    (ys : List α) : (xs ++ ys)[n]? = some x := by
  obtain ⟨hn, -⟩ := List.getElem?_eq_some_iff.mp h
  rw [List.getElem?_append_left hn, h]

theorem tracks_nil : Tracks [] [] [] := ⟨rfl, by simp⟩

theorem length_stemsAfter {stems : List String} {l : Line} (h : l.depth ≤ stems.length) :
    (stemsAfter stems l).length = l.depth + 1 := by
  rw [stemsAfter, List.length_append, List.length_take, List.length_singleton]
  omega

/-- A further line of another depth changes nothing. -/
theorem IsLastOfDepth.concat {ls : List Line} {m : Nat} {l later : Line} (h : IsLastOfDepth ls m l)
    (hne : later.depth ≠ l.depth) : IsLastOfDepth (ls ++ [later]) m l := by
  refine ⟨getElem?_append_of_eq_some h.line_eq _, fun k other hlt hother => ?_⟩
  by_cases hk : k < ls.length
  · rw [List.getElem?_append_left hk] at hother
    exact h.last k other hlt hother
  · rw [List.getElem?_append_right (by omega)] at hother
    obtain rfl := List.mem_singleton.mp (List.mem_of_getElem? hother)
    exact hne

theorem isLastOfDepth_length (ls : List Line) (l : Line) :
    IsLastOfDepth (ls ++ [l]) ls.length l := by
  refine ⟨List.getElem?_concat_length, fun k later hlt hlater => ?_⟩
  rw [List.getElem?_eq_none (by simp; omega)] at hlater
  cases hlater

/-- **A line takes over the stem at its depth** and drops the deeper ones. -/
theorem Tracks.concat {seen : List Line} {told : List Declaration} {stems : List String}
    (h : Tracks seen told stems) {l : Line} (hl : l.depth ≤ stems.length) :
    Tracks (seen ++ [l]) (told ++ [⟨pathOf stems l, l.token⟩]) (stemsAfter stems l) := by
  have hlength := h.length_eq
  refine ⟨by simp [hlength], fun k s hs => ?_⟩
  have htake : (stems.take l.depth).length = l.depth := by
    rw [List.length_take]
    omega
  by_cases hk : k < l.depth
  · rw [stemsAfter, List.getElem?_append_left (by omega), List.getElem?_take_of_lt hk] at hs
    obtain ⟨m, before, d, hlast, hd, rfl, hstem⟩ := h.last k s hs
    exact ⟨m, before, d, hlast.concat (by omega), getElem?_append_of_eq_some hd _, rfl, hstem⟩
  · rw [stemsAfter, List.getElem?_append_right (by omega), htake] at hs
    have hsame : k - l.depth = 0 := by
      have hlt := (List.getElem?_eq_some_iff.mp hs).1
      simpa using hlt
    rw [hsame] at hs
    obtain rfl := Option.some.inj hs
    refine ⟨seen.length, l, ⟨pathOf stems l, l.token⟩, isLastOfDepth_length seen l, ?_, by omega,
      rfl⟩
    rw [← hlength]
    exact List.getElem?_concat_length

/-- The first of the lines to come tells its field. -/
theorem Tracks.isToldBy {seen : List Line} {told : List Declaration} {stems : List String}
    (h : Tracks seen told stems) {l : Line} (hl : l.depth ≤ stems.length) (ls : List Line)
    (fields : List Declaration) :
    IsToldBy (seen ++ l :: ls) (told ++ fields) seen.length l ⟨pathOf stems l, l.token⟩ := by
  refine ⟨rfl, fun hdepth => ?_, fun hdepth => ?_⟩
  · simp [pathOf, hdepth, join]
  · obtain ⟨k, hk⟩ := Nat.exists_eq_add_one_of_ne_zero (Nat.ne_of_gt hdepth)
    -- The stem that the name goes on from is the last one above the depth of the line.
    obtain ⟨s, hs⟩ : ∃ s, stems[k]? = some s := ⟨_, List.getElem?_eq_getElem (by omega)⟩
    have hpath : pathOf stems l = join s l.name := by
      have hlast : (stems.take (k + 1)).getLast? = some s := by
        rw [List.getLast?_take, if_neg (Nat.succ_ne_zero k), Nat.add_sub_cancel, hs]
        rfl
      rw [pathOf, hk, List.getLastD_eq_getLast?, hlast]
      rfl
    obtain ⟨m, above, d, hlast, hd, hdepth', hstem⟩ := h.last k s hs
    have hm : m < seen.length := (List.getElem?_eq_some_iff.mp hlast.line_eq).1
    refine ⟨m, above, d, s, ⟨?_, getElem?_append_of_eq_some hlast.line_eq _, hm, by omega, ?_⟩,
      getElem?_append_of_eq_some hd _, hstem, hpath⟩
    · rw [List.getElem?_append_right (Nat.le_refl _), Nat.sub_self]
      rfl
    · intro k' between hlt hlt' hbetween
      rw [List.getElem?_append_left hlt'] at hbetween
      exact hlast.last k' between hlt hbetween

/-- **Each line tells its field.** -/
theorem Tracks.exists_isToldBy {seen : List Line} {told : List Declaration} {stems : List String}
    {ls : List Line} (h : Tracks seen told stems) (hclimb : Climb stems.length ls) {n : Nat}
    {l : Line} (hl : ls[n]? = some l) :
    ∃ d, (ofLines stems ls)[n]? = some d ∧
      IsToldBy (seen ++ ls) (told ++ ofLines stems ls) (seen.length + n) l d := by
  induction ls generalizing seen told stems n with
  | nil => cases hl
  | cons first ls ih =>
    obtain ⟨hfirst, hclimb⟩ := hclimb
    rw [ofLines]
    cases n with
    | zero =>
      obtain rfl := Option.some.inj hl
      exact ⟨_, rfl, h.isToldBy hfirst ls _⟩
    | succ n =>
      rw [← length_stemsAfter hfirst] at hclimb
      obtain ⟨d, hd, htold⟩ := ih (h.concat hfirst) hclimb hl
      refine ⟨d, hd, ?_⟩
      rw [List.append_assoc, List.append_assoc, List.length_append, List.length_singleton,
        Nat.add_assoc, Nat.add_comm 1 n] at htold
      exact htold

/-! ## The report and the text -/

theorem climb_of_means {r : Registry} {room room' : Nat} {ls : List Line} {es : List Notation.Entry}
    (hmeans : List.Forall₂ (Notation.Entry.Means r) ls es) (h : Notation.Climbs room es)
    (hroom : room ≤ room') : Climb room' ls := by
  induction hmeans generalizing room room' with
  | nil => trivial
  | @cons l e ls es hmean _ ih =>
    obtain ⟨hle, hrest⟩ := h
    have hdepth := hmean.depth_eq
    have hopens : e.declared.room ≤ 1 := by
      cases e.declared <;> simp [Notation.Declared.room]
    exact ⟨by omega, ih hrest (by omega)⟩

end Declaration

theorem Notation.linesIn_write {o : ObjectValidator}
    (h : ∀ l ∈ fieldLines 0 o.fields, IsFieldName l.name ∧ IsToken l.token) :
    linesIn (write o) = (fieldLines 0 o.fields).map Line.write := by
  have hlines : (linesIn (write o)).map some =
      ((fieldLines 0 o.fields).map Line.write).map some := by
    rw [linesIn, write, String.toList_ofList, List.map_map]
    exact linesOfText_text h
  exact List.map_injective_iff.mpr (fun _ _ => Option.some.inj) hlines

open Notation in
/-- **The report on a schema and its canonical text tell of the same fields in the same
order.**  The text is written line by line: tabs, a name, a colon and a type.  The report
has one field for each line, told by this line and the one above it.  So the report can be
rebuilt from the text. -/
theorem declarations_follow_lines {r : Registry} {bytes : Bytes} {o : ObjectValidator}
    (hread : readBytes r bytes = .ok o) :
    ∃ ls : List Line, linesIn (write o) = ls.map Line.write ∧
      (∀ l ∈ ls, IsFieldName l.name ∧ IsToken l.token) ∧
      (Declaration.ofSchema ⟨o⟩).length = ls.length ∧
      (∀ n l, ls[n]? = some l → ∃ d, (Declaration.ofSchema ⟨o⟩)[n]? = some d ∧
        Declaration.IsToldBy ls (Declaration.ofSchema ⟨o⟩) n l d) ∧
      Declaration.ofSchema ⟨o⟩ = Declaration.ofText (write o) := by
  have hexpressible := isExpressible_of_outlines (readAll_eq_ok_iff.mp hread)
  obtain ⟨es, hes⟩ := exists_written_of_forall hexpressible.names.valid hexpressible.fields
    (fun f hf => exists_written (hexpressible.fields f hf)) 0
  have hfields := Declaration.ofLines_of_isExpressible hexpressible
  have hlines := linesIn_write hes.lines
  have hread' : (linesIn (write o)).map Line.read? = (fieldLines 0 o.fields).map some := by
    rw [hlines, List.map_map]
    refine List.map_congr_left fun l hl => ?_
    obtain ⟨hname, htoken⟩ := hes.lines l hl
    exact Line.read?_eq_some_iff.mpr (Line.spells_write hname htoken)
  refine ⟨fieldLines 0 o.fields, hlines, hes.lines, ?_, fun n l hl => ?_, ?_⟩
  · rw [← hfields, Declaration.length_ofLines]
  · have hclimb := Declaration.climb_of_means hes.means hes.climbs (Nat.le_refl 0)
    obtain ⟨d, hd, htold⟩ := Declaration.tracks_nil.exists_isToldBy hclimb hl
    rw [hfields] at hd htold
    rw [List.nil_append, List.nil_append, List.length_nil, Nat.zero_add] at htold
    exact ⟨d, hd, htold⟩
  · rw [Declaration.ofText, declarations_eq hread', hfields]

open Notation in
/-- Names go on behind the mark of an array, and without a dot below a field that has no
name. -/
theorem declarations_follow_lines_of_items :
    ∃ o, readBytes Registry.empty
        (Bytes.ofText "a:Object\n\tb:Object[]\n\t\tc:Int\n:Object\n\td:Int\n") = .ok o ∧
      Declaration.ofText (write o) = [⟨"a", "Object"⟩, ⟨"a.b", "Object[]"⟩, ⟨"a.b[].c", "Int"⟩,
        ⟨"", "Object"⟩, ⟨"d", "Int"⟩] := by
  let items : Validator := .array (.object none [("c", .leaf .int)])
  let o : ObjectValidator :=
    { fields := [("a", .object none [("b", items)]), ("", .object none [("d", .leaf .int)])] }
  have hread : readBytes Registry.empty
      (Bytes.ofText "a:Object\n\tb:Object[]\n\t\tc:Int\n:Object\n\td:Int\n") = .ok o := rfl
  obtain ⟨ls, -, -, -, -, hrebuilt⟩ := declarations_follow_lines hread
  exact ⟨o, hread, hrebuilt ▸ rfl⟩

end DocSchema
