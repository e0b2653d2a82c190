import DocSchema.Proofs.Notation.RoundTrip

/-!
# Canonical texts

Many texts outline one tree: blanks may stand around a colon, lines may end in a
carriage return, the last line need not be ended, and a repeated field name
replaces what was declared before.  `IsCanonical` says which texts do none of
this.  They are exactly the texts that writing gives back unchanged
(`write_eq_iff_isCanonical`).

That written text is canonical is shown along the tree: the lines of a child are
deeper than those around it, so two lines of one object never stand in different
lists of fields.  For the converse the outline of a canonical text is written
again, by the same induction by which the outline is read: without a repeated
name, entering fields changes nothing, so the lines at a depth, with the bodies
between them, come back in order.
-/
namespace DocSchema.Notation

/-! ## Fields declared once -/

/-- **No object has two lines for one field.**  Two lines of one depth with no
shallower line between them declare fields of the same object; they give them
different names. -/
def DistinctFields (ls : List Line) : Prop :=
  ∀ front l between m rest, ls = front ++ l :: (between ++ m :: rest) → m.depth = l.depth →
    (∀ k ∈ between, l.depth ≤ k.depth) → m.name ≠ l.name

/-- **Canonical texts**: lines, each ended by a line feed, with nothing but its
tabs, a name of a field, a colon and a type name, and no object with two lines for
one field. -/
def IsCanonical (found : String) : Prop :=
  ∃ ls : List Line,
    found.toList = (ls.flatMap fun l =>
      List.replicate l.depth '\t' ++ l.name.toList ++ [':'] ++ l.token.toList ++ ['\n']) ∧
    (∀ l ∈ ls, IsFieldName l.name ∧ IsToken l.token) ∧ DistinctFields ls

/-- The text of lines has nothing between their parts. -/
theorem text_eq_flatMap (ls : List Line) :
    text ls = ls.flatMap fun l =>
      List.replicate l.depth '\t' ++ l.name.toList ++ [':'] ++ l.token.toList ++ ['\n'] := by
  induction ls with
  | nil => rfl
  | cons l ls ih => simp [ih, Line.write]

/-- The first line has a name of its own among the fields of its object, and so
have the others. -/
theorem distinctFields_cons {l : Line} {rest : List Line} :
    DistinctFields (l :: rest) ↔
      (∀ m ∈ rest.takeWhile (l.depth ≤ ·.depth), m.depth = l.depth → m.name ≠ l.name) ∧
        DistinctFields rest := by
  constructor
  · intro h
    refine ⟨fun m hm hdepth => ?_, fun front k between m tail hsplit => ?_⟩
    · obtain ⟨between, more, hsplit⟩ := List.append_of_mem hm
      have hbetween : ∀ k ∈ between, l.depth ≤ k.depth := by
        intro k hk
        have hwhile : k ∈ rest.takeWhile (l.depth ≤ ·.depth) := by
          rw [hsplit]
          exact List.mem_append_left _ hk
        exact of_decide_eq_true (List.all_eq_true.mp List.all_takeWhile k hwhile)
      have hrest : rest = between ++ m :: (more ++ rest.dropWhile (l.depth ≤ ·.depth)) := by
        rw [← List.cons_append, ← List.append_assoc, ← hsplit, List.takeWhile_append_dropWhile]
      exact h [] l between m _ (congrArg (l :: ·) hrest) hdepth hbetween
    · exact h (l :: front) k between m tail (by rw [hsplit]; rfl)
  · rintro ⟨hfirst, hrest⟩ front k between m tail hsplit hdepth hbetween
    cases front with
    | nil =>
      obtain ⟨rfl, rfl⟩ := List.cons.inj hsplit
      refine hfirst m ?_ hdepth
      rw [List.takeWhile_append_of_pos fun k hk => decide_eq_true (hbetween k hk),
        List.takeWhile_cons_of_pos (by simp [hdepth])]
      exact List.mem_append_right _ List.mem_cons_self
    | cons first front =>
      obtain ⟨rfl, rfl⟩ := List.cons.inj hsplit
      exact hrest front k between m tail rfl hdepth hbetween

theorem distinctFields_nil : DistinctFields [] := by
  intro front l between m rest h
  simp at h

theorem DistinctFields.of_append {xs ys : List Line} (h : DistinctFields (xs ++ ys)) :
    DistinctFields xs ∧ DistinctFields ys := by
  constructor
  · intro front l between m rest hsplit
    exact h front l between m (rest ++ ys) (by simp [hsplit])
  · intro front l between m rest hsplit
    exact h (xs ++ front) l between m rest (by simp [hsplit])

/-- Lines of an object that is closed by a shallower line share no fields with the
lines from there on. -/
theorem DistinctFields.append {xs ys : List Line} {depth : Nat} (hxs : DistinctFields xs)
    (hys : DistinctFields ys) (hdeep : ∀ l ∈ xs, depth < l.depth)
    (hfirst : ∀ l, ys.head? = some l → l.depth ≤ depth) : DistinctFields (xs ++ ys) := by
  induction xs with
  | nil => exact hys
  | cons l xs ih =>
    rw [distinctFields_cons] at hxs
    rw [List.forall_mem_cons] at hdeep
    rw [List.cons_append, distinctFields_cons]
    refine ⟨fun m hm => hxs.1 m ?_, ih hxs.2 hdeep.2⟩
    have hstop : ys.takeWhile (l.depth ≤ ·.depth) = [] := by
      cases ys with
      | nil => rfl
      | cons y ys =>
        have hle := hfirst y rfl
        exact List.takeWhile_cons_of_neg (by simp; omega)
    rw [List.takeWhile_append, hstop, List.append_nil] at hm
    split at hm
    · rename_i hall
      rwa [List.takeWhile_sublist _ |>.eq_of_length hall]
    · exact hm

/-! ## Written text is canonical -/

mutual

theorem le_depth_of_mem_innerLines (depth : Nat) (v : Validator) :
    ∀ l ∈ innerLines depth v, depth ≤ l.depth := by
  match v with
  | .leaf _ | .array (.leaf _) | .array (.array _) => simp [innerLines]
  | .object _ fields | .array (.object _ fields) =>
    rw [innerLines]
    exact le_depth_of_mem_fieldLines depth fields

/-- Fields are written at their depth, and what is below them deeper. -/
theorem le_depth_of_mem_fieldLines (depth : Nat) (fields : List (String × Validator)) :
    ∀ l ∈ fieldLines depth fields, depth ≤ l.depth := by
  match fields with
  | [] => simp [fieldLines]
  | (name, v) :: rest =>
    rw [fieldLines, List.forall_mem_cons]
    refine ⟨Nat.le_refl _, fun l hl => ?_⟩
    rcases List.mem_append.mp hl with hl | hl
    · exact Nat.le_of_succ_le (le_depth_of_mem_innerLines (depth + 1) v l hl)
    · exact le_depth_of_mem_fieldLines depth rest l hl

end

/-- The lines at the depth of fields have the names of the fields. -/
theorem name_mem_keys_of_mem_fieldLines {depth : Nat} {fields : List (String × Validator)}
    {l : Line} (h : l ∈ fieldLines depth fields) (hdepth : l.depth = depth) :
    l.name ∈ Keyed.keys fields := by
  induction fields with
  | nil => simp [fieldLines] at h
  | cons field rest ih =>
    obtain ⟨name, v⟩ := field
    rw [fieldLines, List.mem_cons, List.mem_append] at h
    rcases h with rfl | h | h
    · exact List.mem_cons_self
    · have hdeeper := le_depth_of_mem_innerLines (depth + 1) v l h
      omega
    · exact List.mem_cons_of_mem _ (ih h)

/-- Fields of different names are written as distinct fields if the children of
each are. -/
theorem distinctFields_fieldLines {depth : Nat} {fields : List (String × Validator)}
    (hnames : (Keyed.keys fields).Nodup)
    (hinner : ∀ f ∈ fields, DistinctFields (innerLines (depth + 1) f.2)) :
    DistinctFields (fieldLines depth fields) := by
  induction fields with
  | nil => exact distinctFields_nil
  | cons field rest ih =>
    obtain ⟨name, v⟩ := field
    rw [Keyed.keys_cons, List.nodup_cons] at hnames
    rw [List.forall_mem_cons] at hinner
    rw [fieldLines, distinctFields_cons]
    constructor
    · intro m hm (hdepth : m.depth = depth) (hname : m.name = name)
      rcases List.mem_append.mp ((List.takeWhile_sublist _).subset hm) with hm | hm
      · have hdeeper := le_depth_of_mem_innerLines (depth + 1) v m hm
        omega
      · exact hnames.1 (hname ▸ name_mem_keys_of_mem_fieldLines hm hdepth)
    · refine hinner.1.append (ih hnames.2 hinner.2)
        (fun l hl => le_depth_of_mem_innerLines (depth + 1) v l hl) fun l hl => ?_
      cases rest with
      | nil => simp [fieldLines] at hl
      | cons next rest =>
        rw [fieldLines, List.head?_cons] at hl
        obtain rfl := Option.some.inj hl
        exact Nat.le_refl _

/-- **Every expressible tree is written as distinct fields**, at any depth. -/
theorem distinctFields_innerLines {r : Registry} {v : Validator} (h : Expressible r v)
    (depth : Nat) : DistinctFields (innerLines depth v) := by
  induction h generalizing depth with
  | string | boolean | int | pattern _ | element _ | elements _ => exact distinctFields_nil
  | object _ hnames _ ih | objects _ hnames _ ih =>
    rw [innerLines]
    exact distinctFields_fieldLines hnames.nodup fun f hf => ih f hf (depth + 1)

theorem isCanonical_write {r : Registry} {o : ObjectValidator} (h : IsExpressible r o) :
    IsCanonical (write o) := by
  obtain ⟨es, hes⟩ := exists_written_of_forall h.names.valid h.fields
    (fun f hf => exists_written (h.fields f hf)) 0
  refine ⟨_, String.toList_ofList.trans (text_eq_flatMap _), hes.lines,
    distinctFields_fieldLines h.names.nodup fun f hf => ?_⟩
  exact distinctFields_innerLines (h.fields f hf) 1

/-! ## Canonical text is written -/

/-- The line of an entry. -/
def Entry.line (e : Entry) : Line := ⟨e.depth, e.name, (e.declared.validator []).token⟩

/-- A validator has the type name that its line had, whatever its fields are. -/
theorem Denotes.token_eq {r : Registry} {token : String} {d : Declared} (h : Denotes r token d)
    (fields : List (String × Validator)) : (d.validator fields).token = token := by
  cases h with
  | string | boolean | int | element _ | elements _ => rfl
  | pattern hp => rw [← Pattern.text_of_compile? hp]; rfl
  | object | kind _ =>
    rw [Declared.validator, if_neg (by decide), ObjectValidator.token_toValidator,
      ObjectValidator.token, ObjectValidator.hook_setAll]
    rfl
  | objects | kinds _ =>
    rw [Declared.validator, if_pos rfl, Validator.token, ObjectValidator.token_toValidator,
      ObjectValidator.token, ObjectValidator.hook_setAll]
    rfl

theorem Entry.Means.line_eq {r : Registry} {l : Line} {e : Entry} (h : Entry.Means r l e) :
    e.line = l := by
  rw [line, h.depth_eq, h.name_eq, h.denotes.token_eq]

theorem map_line_of_means {r : Registry} {ls : List Line} {es : List Entry}
    (h : List.Forall₂ (Entry.Means r) ls es) :
    es.map Entry.line = ls ∧ ∀ e ∈ es, ∃ token, Denotes r token e.declared := by
  induction h with
  | nil => exact ⟨rfl, by simp⟩
  | cons hmean _ ih =>
    rw [List.map_cons, hmean.line_eq, ih.1, List.forall_mem_cons]
    exact ⟨rfl, ⟨_, hmean.denotes⟩, ih.2⟩

/-- What lines declare at a depth is what the lines of this depth declare. -/
theorem name_of_mem_keys_declaredAt {depth : Nat} {es : List Entry} {name : String}
    (h : name ∈ Keyed.keys (declaredAt depth es)) : ∃ e ∈ es, e.depth = depth ∧ e.name = name := by
  induction es with
  | nil => simp [declaredAt_nil] at h
  | cons e rest ih =>
    by_cases hdepth : e.depth = depth
    · rw [declaredAt_cons rest hdepth, Keyed.keys_cons, List.mem_cons] at h
      rcases h with rfl | h
      · exact ⟨e, List.mem_cons_self, hdepth, rfl⟩
      · obtain ⟨e', he', hrest⟩ := ih h
        exact ⟨e', List.mem_cons_of_mem _ he', hrest⟩
    · rw [declaredAt, if_neg hdepth] at h
      obtain ⟨e', he', hrest⟩ := ih h
      exact ⟨e', List.mem_cons_of_mem _ he', hrest⟩

/-- Distinct fields of one object have different names. -/
theorem nodup_keys_declaredAt {depth : Nat} {es : List Entry} (hdeep : ∀ e ∈ es, depth ≤ e.depth)
    (h : DistinctFields (es.map Entry.line)) : (Keyed.keys (declaredAt depth es)).Nodup := by
  induction es with
  | nil => simp [declaredAt_nil]
  | cons e rest ih =>
    rw [List.forall_mem_cons] at hdeep
    rw [List.map_cons, distinctFields_cons] at h
    have hrest := ih hdeep.2 h.2
    by_cases hdepth : e.depth = depth
    · rw [declaredAt_cons rest hdepth, Keyed.keys_cons, List.nodup_cons]
      refine ⟨fun hmem => ?_, hrest⟩
      obtain ⟨e', he', hdepth', hname⟩ := name_of_mem_keys_declaredAt hmem
      -- No line is shallower, so all of them belong to the object of the first.
      have hall : ∀ l ∈ rest.map Entry.line, decide (e.line.depth ≤ l.depth) = true := by
        intro l hl
        obtain ⟨e'', he'', rfl⟩ := List.mem_map.mp hl
        exact decide_eq_true (Nat.le_trans (Nat.le_of_eq hdepth) (hdeep.2 e'' he''))
      have hwhile : e'.line ∈ (rest.map Entry.line).takeWhile (e.line.depth ≤ ·.depth) := by
        rw [← List.append_nil (rest.map Entry.line), List.takeWhile_append_of_pos hall]
        exact List.mem_append_left _ (List.mem_map_of_mem he')
      exact h.1 e'.line hwhile (hdepth'.trans hdepth.symm) hname
    · rwa [declaredAt, if_neg hdepth]

/-- An opened object gets exactly the fields below it, if their names are
different. -/
theorem declared_validator_opens {r : Registry} {token : String} {o : ObjectValidator}
    {isArray : Bool} (h : Denotes r token (.opens o isArray)) {fields : List (String × Validator)}
    (hnames : (Keyed.keys fields).Nodup) :
    ((Declared.opens o isArray).validator fields).declared = fields := by
  have hkeys : o.keys = [] := by rw [ObjectValidator.keys, h.fresh.2]; rfl
  have hfields : (o.setAll fields).fields = fields := by
    rw [ObjectValidator.fields_setAll_of_nodup (by rwa [hkeys]), h.fresh.2, List.nil_append]
  cases isArray <;> exact hfields

/-- A leaf, or an array of leaves, declares no fields. -/
theorem Denotes.declared_leaf {r : Registry} {token : String} {v : Validator}
    (h : Denotes r token (.leaf v)) : v.declared = [] := by
  cases h <;> rfl

/-- Where a leaf leaves no room, no lines are deeper. -/
theorem Climbs.eq_nil_of_deeper {depth : Nat} {es : List Entry} (h : Climbs depth es)
    (hdeep : ∀ e ∈ es, depth < e.depth) : es = [] := by
  cases es with
  | nil => rfl
  | cons e rest =>
    have hshallow : e.depth ≤ depth := h.1
    exact absurd (hdeep e List.mem_cons_self) (Nat.not_lt.mpr hshallow)

/-- **Writing the outline of distinct fields gives back their lines.** -/
theorem fieldLines_declaredAt {r : Registry} {depth : Nat} {es : List Entry}
    (hclimbs : Climbs depth es) (hdeep : ∀ e ∈ es, depth ≤ e.depth)
    (hmeans : ∀ e ∈ es, ∃ token, Denotes r token e.declared)
    (hdistinct : DistinctFields (es.map Entry.line)) :
    fieldLines depth (declaredAt depth es) = es.map Entry.line := by
  induction hn : es.length using Nat.strongRecOn generalizing es depth with
  | _ n ih =>
    cases es with
    | nil => rw [declaredAt_nil]; rfl
    | cons e rest =>
      obtain ⟨hle, hrest⟩ := hclimbs
      rw [List.forall_mem_cons] at hdeep hmeans
      obtain ⟨token, hdenotes⟩ := hmeans.1
      have hdepth : e.depth = depth := Nat.le_antisymm hle hdeep.1
      have hsplit := List.takeWhile_append_dropWhile (p := (depth < ·.depth)) (l := rest)
      have hbodySub : ∀ e ∈ rest.takeWhile (depth < ·.depth), e ∈ rest := fun e he =>
        (List.takeWhile_sublist _).subset he
      have htailSub : ∀ e ∈ rest.dropWhile (depth < ·.depth), e ∈ rest := fun e he =>
        (List.dropWhile_sublist _).subset he
      have hbodyDeep : ∀ e ∈ rest.takeWhile (depth < ·.depth), depth + 1 ≤ e.depth := fun e he =>
        of_decide_eq_true (List.all_eq_true.mp List.all_takeWhile e he)
      rw [List.map_cons, distinctFields_cons] at hdistinct
      have hparts := hdistinct.2
      rw [← hsplit, List.map_append] at hparts
      obtain ⟨hbodyDistinct, htailDistinct⟩ := hparts.of_append
      have hclimbsBody : Climbs (depth + e.declared.room) (rest.takeWhile (depth < ·.depth)) := by
        rw [← hsplit, hdepth] at hrest
        exact hrest.left_of_append
      have htail : fieldLines depth (declaredAt depth rest) =
          (rest.dropWhile (depth < ·.depth)).map Entry.line := by
        rw [← declaredAt_dropWhile]
        exact ih _ (by rw [← hn]; exact Nat.lt_succ_of_le (List.dropWhile_sublist _).length_le)
          hrest.dropWhile (fun e he => hdeep.2 e (htailSub e he))
          (fun e he => hmeans.2 e (htailSub e he)) htailDistinct rfl
      have hbody : fieldLines (depth + 1)
          (e.declared.validator
            (declaredAt (depth + 1) (rest.takeWhile (depth < ·.depth)))).declared =
          (rest.takeWhile (depth < ·.depth)).map Entry.line := by
        cases hdeclared : e.declared with
        | leaf v =>
          rw [hdeclared] at hdenotes hclimbsBody
          rw [hclimbsBody.eq_nil_of_deeper hbodyDeep, Declared.validator, hdenotes.declared_leaf]
          rfl
        | opens o isArray =>
          rw [hdeclared] at hdenotes hclimbsBody
          rw [declared_validator_opens hdenotes (nodup_keys_declaredAt hbodyDeep hbodyDistinct)]
          exact ih _ (by rw [← hn]; exact Nat.lt_succ_of_le (List.takeWhile_sublist _).length_le)
            hclimbsBody hbodyDeep (fun e he => hmeans.2 e (hbodySub e he)) hbodyDistinct rfl
      rw [declaredAt_cons rest hdepth, fieldLines, innerLines_eq, hbody, htail, ← List.map_append,
        hsplit, List.map_cons, Entry.line, hdepth, hdenotes.token_eq, hdenotes.token_eq]

/-- A text that spells lines without gaps states exactly these lines. -/
theorem eq_of_spelledBy_write {ls ls' : List Line}
    (h : ∀ l ∈ ls, IsFieldName l.name ∧ IsToken l.token)
    (hspelled : List.Forall₂ SpelledBy (ls.map fun l => some l.write) ls') : ls' = ls := by
  induction ls generalizing ls' with
  | nil => cases hspelled; rfl
  | cons l ls ih =>
    rw [List.forall_mem_cons] at h
    rw [List.map_cons] at hspelled
    obtain ⟨l', ls', ⟨text, htext, hl⟩, hls, rfl⟩ := List.forall₂_cons_left_iff.mp hspelled
    obtain rfl := Option.some.inj htext
    rw [hl.unique (Line.spells_write h.1.1 h.1.2), ih h.2 hls]

theorem write_of_isCanonical {r : Registry} {found : String} {o : ObjectValidator}
    (hread : read r found = .ok o) (h : IsCanonical found) : write o = found := by
  obtain ⟨ls, hfound, hvalid, hdistinct⟩ := h
  rw [← text_eq_flatMap] at hfound
  obtain ⟨es, hstated, hclimbs, rfl⟩ := readAll_eq_ok_iff.mp hread
  obtain ⟨ls', hspelled, hmeans⟩ := forall₂_statedBy_iff.mp hstated
  rw [hfound, linesOfText_text hvalid] at hspelled
  obtain rfl := eq_of_spelledBy_write hvalid hspelled
  obtain ⟨hlines, hdenotes⟩ := map_line_of_means hmeans
  rw [← hlines] at hdistinct
  have hdeep : ∀ e ∈ es, 0 ≤ e.depth := fun e _ => Nat.zero_le _
  have hnodup := nodup_keys_declaredAt hdeep hdistinct
  have hfields : (outline es).fields = declaredAt 0 es :=
    ObjectValidator.fields_setAll_of_nodup hnodup
  rw [write, hfields, fieldLines_declaredAt hclimbs hdeep hdenotes hdistinct, hlines, ← hfound,
    String.ofList_toList]

/-- **Writing leaves a text as it is exactly if it is canonical.** -/
theorem write_eq_iff_isCanonical {r : Registry} {found : String} {o : ObjectValidator}
    (hread : read r found = .ok o) : write o = found ↔ IsCanonical found := by
  constructor
  · intro h
    rw [← h]
    exact isCanonical_write (isExpressible_of_outlines (readAll_eq_ok_iff.mp hread))
  · exact write_of_isCanonical hread

end DocSchema.Notation
