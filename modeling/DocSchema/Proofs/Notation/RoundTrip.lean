import DocSchema.Notation.Writer
import DocSchema.Proofs.Notation.Expressible
import DocSchema.Proofs.Notation.Grammar
import DocSchema.Proofs.Text.Lines

/-!
# Writing a tree and reading it back

The writer recurses through a tree; the reader goes through a list of lines.
They meet in the outline of the lines: the lines that a field list writes at a
depth (`fieldLines`) mean entries that declare exactly these fields at that depth
(`Written`).  This is shown along the tree.  The lines of a child are deeper than
the depth of the list, so the body that the outline takes for a line is what was
written for its child, neither more nor less.

With the trees that lines can outline (`IsExpressible`) this makes reading and
writing inverse to each other.
-/
namespace DocSchema.Notation

/-! ## The type name of an expressible tree -/

/-- What the line of a validator says about it: its type name is one, means
something, and gives back the validator from the fields that it declares. -/
structure IsNamed (r : Registry) (v : Validator) (d : Declared) : Prop where
  token : IsToken v.token
  denotes : Denotes r v.token d
  validator : d.validator v.declared = v
  room : v.declared ≠ [] → d.room = 1

theorem isToken_arraySuffix {token : String} (h : IsToken token) : IsToken (token ++ arraySuffix) :=
  h.append (show IsToken arraySuffix by decide).chars

theorem isToken_hook {r : Registry} {hook : Option Hook} (h : IsKindHook r hook) :
    IsToken (Hook.token hook) := by
  cases h with
  | plain => exact (by decide : IsToken (Hook.token none))
  | kind hget => exact (isKindName_of_get? hget).token

theorem denotes_hook {r : Registry} {hook : Option Hook} (h : IsKindHook r hook) :
    Denotes r (Hook.token hook) (.opens { hook } false) ∧
      Denotes r (Hook.token hook ++ arraySuffix) (.opens { hook } true) := by
  cases h with
  | plain => exact ⟨.object, .objects⟩
  | kind hget => exact ⟨.kind hget, .kinds hget⟩

/-- An object without fields gets its fields back. -/
theorem setAll_fields {hook : Option Hook} {fields : List (String × Validator)}
    (h : HasFieldNames fields) :
    (show ObjectValidator from { hook }).setAll fields = { hook, fields } := by
  have hfields := ObjectValidator.fields_setAll_of_nodup (o := { hook }) h.nodup
  have hhook := ObjectValidator.hook_setAll { hook } fields
  cases hset : (show ObjectValidator from { hook }).setAll fields with
  | mk hook' fields' =>
    rw [hset] at hfields hhook
    rw [show hook' = hook from hhook, show fields' = fields from hfields]

theorem exists_isNamed {r : Registry} {v : Validator} (h : Expressible r v) :
    ∃ d, IsNamed r v d := by
  have hnone : ∀ {d : Declared}, ([] : List (String × Validator)) ≠ [] → d.room = 1 :=
    fun hne => absurd rfl hne
  cases h with
  | string => exact ⟨_, by decide, .string, rfl, hnone⟩
  | boolean => exact ⟨_, by decide, .boolean, rfl, hnone⟩
  | int => exact ⟨_, by decide, .int, rfl, hnone⟩
  | @pattern p hp =>
    have hprefix : IsToken patternPrefix := by decide
    exact ⟨_, hprefix.append hp, .pattern (Pattern.compile?_text p), rfl, hnone⟩
  | element hget => exact ⟨_, (isKindName_of_get? hget).token, .element hget, rfl, hnone⟩
  | elements hget =>
    exact ⟨_, isToken_arraySuffix (isKindName_of_get? hget).token, .elements hget, rfl, hnone⟩
  | @object hook fields hhook hnames _ =>
    refine ⟨_, isToken_hook hhook, (denotes_hook hhook).1, ?_, fun _ => rfl⟩
    rw [Validator.declared, Declared.validator, setAll_fields hnames]
    rfl
  | @objects hook fields hhook hnames _ =>
    refine ⟨_, isToken_arraySuffix (isToken_hook hhook), (denotes_hook hhook).2, ?_, fun _ => rfl⟩
    rw [Validator.declared, Declared.validator, setAll_fields hnames]
    rfl

/-! ## Written fields as entries -/

/-- **The entries of written fields.**  They are the meanings of the lines, they
climb from the depth of the fields, stay at least that deep, and declare the
fields at that depth. -/
structure Written (r : Registry) (depth : Nat) (fields : List (String × Validator))
    (es : List Entry) : Prop where
  lines : ∀ l ∈ fieldLines depth fields, IsFieldName l.name ∧ IsToken l.token
  means : List.Forall₂ (Entry.Means r) (fieldLines depth fields) es
  climbs : Climbs depth es
  deep : ∀ e ∈ es, depth ≤ e.depth
  declared : declaredAt depth es = fields

theorem innerLines_eq (depth : Nat) (v : Validator) :
    innerLines depth v = fieldLines depth v.declared := by
  match v with
  | .leaf _ | .object _ _ | .array (.object _ _) => rfl
  | .array (.leaf _) | .array (.array _) => rfl

/-- Lines that stay below a depth can be followed by lines that climb from it. -/
theorem Climbs.append {room depth : Nat} {xs ys : List Entry} (hxs : Climbs room xs)
    (hys : Climbs depth ys) (hroom : depth ≤ room) (hdeep : ∀ e ∈ xs, depth ≤ e.depth) :
    Climbs room (xs ++ ys) := by
  induction xs generalizing room with
  | nil =>
    cases ys with
    | nil => trivial
    | cons e ys => exact ⟨Nat.le_trans hys.1 hroom, hys.2⟩
  | cons e xs ih =>
    have hle : depth ≤ e.depth := hdeep e List.mem_cons_self
    exact ⟨hxs.1, ih hxs.2 (by omega) fun e he => hdeep e (List.mem_cons_of_mem _ he)⟩

/-- The lines below a line end where lines of its own depth begin. -/
theorem takeWhile_deeper {depth : Nat} {body rest : List Entry}
    (hbody : ∀ e ∈ body, depth < e.depth) (hrest : Climbs depth rest) :
    (body ++ rest).takeWhile (depth < ·.depth) = body ∧
      (body ++ rest).dropWhile (depth < ·.depth) = rest := by
  have hbody' : ∀ e ∈ body, decide (depth < e.depth) = true := fun e he =>
    decide_eq_true (hbody e he)
  rw [List.takeWhile_append_of_pos hbody', List.dropWhile_append_of_pos hbody']
  cases rest with
  | nil => simp
  | cons e rest =>
    have hnot : ¬ depth < e.depth := Nat.not_lt.mpr hrest.1
    simp [hnot]

theorem Written.nil (r : Registry) (depth : Nat) : Written r depth [] [] :=
  ⟨by simp [fieldLines], .nil, trivial, by simp, declaredAt_nil depth⟩

/-- A field in front: its own line, the lines of its child, then the others. -/
theorem Written.cons {r : Registry} {depth : Nat} {name : String} {v : Validator} {d : Declared}
    {rest : List (String × Validator)} {inner outer : List Entry} (hname : IsFieldName name)
    (hv : IsNamed r v d) (hinner : Written r (depth + 1) v.declared inner)
    (houter : Written r depth rest outer) :
    Written r depth ((name, v) :: rest) (⟨depth, name, d⟩ :: (inner ++ outer)) := by
  have hlines : fieldLines depth ((name, v) :: rest) =
      ⟨depth, name, v.token⟩ :: (fieldLines (depth + 1) v.declared ++ fieldLines depth rest) := by
    rw [fieldLines, innerLines_eq]
  -- Without lines below it, a line need not leave room for any.
  have hclimbs : Climbs (depth + d.room) (inner ++ outer) := by
    by_cases hempty : v.declared = []
    · have hmeans := hinner.means
      rw [hempty] at hmeans
      cases hmeans
      exact Climbs.append trivial houter.climbs (Nat.le_add_right _ _) (by simp)
    · rw [hv.room hempty]
      exact hinner.climbs.append houter.climbs (Nat.le_succ _) fun e he =>
        Nat.le_of_succ_le (hinner.deep e he)
  obtain ⟨hbody, htail⟩ := takeWhile_deeper (fun e he => hinner.deep e he) houter.climbs
  refine ⟨?_, ?_, ⟨Nat.le_refl _, hclimbs⟩, ?_, ?_⟩
  · intro l hl
    rw [hlines] at hl
    rcases List.mem_cons.mp hl with rfl | hl
    · exact ⟨hname, hv.token⟩
    · exact (List.mem_append.mp hl).elim (hinner.lines l) (houter.lines l)
  · rw [hlines]
    exact .cons ⟨rfl, rfl, hv.denotes⟩ (List.rel_append hinner.means houter.means)
  · intro e he
    rcases List.mem_cons.mp he with rfl | he
    · exact Nat.le_refl _
    · rcases List.mem_append.mp he with he | he
      · exact Nat.le_of_succ_le (hinner.deep e he)
      · exact houter.deep e he
  · have hfirst : declaredAt depth (⟨depth, name, d⟩ :: (inner ++ outer)) = _ :=
      declaredAt_cons (inner ++ outer) rfl
    rw [hfirst, hbody, hinner.declared, hv.validator, ← declaredAt_dropWhile depth (inner ++ outer),
      htail, houter.declared]

/-- Fields are written if the children of each of them are. -/
theorem exists_written_of_forall {r : Registry} {fields : List (String × Validator)}
    (hnames : ∀ f ∈ fields, IsFieldName f.1) (htrees : ∀ f ∈ fields, Expressible r f.2)
    (hinner : ∀ f ∈ fields, ∀ depth, ∃ es, Written r depth f.2.declared es) (depth : Nat) :
    ∃ es, Written r depth fields es := by
  induction fields with
  | nil => exact ⟨[], .nil r depth⟩
  | cons f rest ih =>
    obtain ⟨d, hd⟩ := exists_isNamed (htrees f List.mem_cons_self)
    obtain ⟨inner, hinnerWritten⟩ := hinner f List.mem_cons_self (depth + 1)
    obtain ⟨outer, houter⟩ := ih (fun f hf => hnames f (List.mem_cons_of_mem _ hf))
      (fun f hf => htrees f (List.mem_cons_of_mem _ hf))
      (fun f hf => hinner f (List.mem_cons_of_mem _ hf))
    exact ⟨_, .cons (hnames f List.mem_cons_self) hd hinnerWritten houter⟩

/-- **Every expressible tree is written**, at any depth. -/
theorem exists_written {r : Registry} {v : Validator} (h : Expressible r v) (depth : Nat) :
    ∃ es, Written r depth v.declared es := by
  induction h generalizing depth with
  | string | boolean | int | pattern _ | element _ | elements _ => exact ⟨[], .nil r depth⟩
  | object _ hnames htrees ih | objects _ hnames htrees ih =>
    exact exists_written_of_forall hnames.valid htrees ih depth

/-! ## Written text as lines -/

theorem cut_text {ls : List Line} (h : ∀ l ∈ ls, IsFieldName l.name ∧ IsToken l.token) :
    Lines.cut '\n' (text ls) = ls.map fun l => (l.write, true) := by
  induction ls with
  | nil => rfl
  | cons l ls ih =>
    obtain ⟨hname, htoken⟩ := h l List.mem_cons_self
    have hfeed : '\n' ∉ l.write := Line.not_mem_write hname htoken (by decide) (by decide)
    rw [text_cons, Lines.cut_append_feed _ _ _ hfeed,
      ih fun l hl => h l (List.mem_cons_of_mem _ hl)]
    rfl

/-- The lines of written text are the lines that were written. -/
theorem linesOfText_text {ls : List Line} (h : ∀ l ∈ ls, IsFieldName l.name ∧ IsToken l.token) :
    linesOfText (text ls) = ls.map fun l => some l.write := by
  rw [linesOfText, Lines.split, cut_text h, List.map_map, List.map_map]
  refine List.map_congr_left fun l hl => ?_
  obtain ⟨hname, htoken⟩ := h l hl
  have hreturn : l.write.getLast? ≠ some '\r' := fun hlast =>
    Line.not_mem_write hname htoken (by decide) (by decide) (List.mem_of_getLast? hlast)
  simp [Lines.dropReturn, hreturn]

theorem forall₂_spelledBy_write {ls : List Line}
    (h : ∀ l ∈ ls, IsFieldName l.name ∧ IsToken l.token) :
    List.Forall₂ SpelledBy (ls.map fun l => some l.write) ls := by
  rw [List.forall₂_map_left_iff, List.forall₂_same]
  intro l hl
  obtain ⟨hname, htoken⟩ := h l hl
  exact ⟨l.write, rfl, Line.spells_write hname htoken⟩

/-! ## Reading back -/

/-- The lines of an expressible object outline it. -/
theorem outlines_write {r : Registry} {o : ObjectValidator} (h : IsExpressible r o) :
    Outlines r (linesOfText (write o).toList) o := by
  obtain ⟨es, hes⟩ := exists_written_of_forall h.names.valid h.fields
    (fun f hf => exists_written (h.fields f hf)) 0
  refine ⟨es, forall₂_statedBy_iff.mpr ⟨_, ?_, hes.means⟩, hes.climbs, ?_⟩
  · rw [write, String.toList_ofList, linesOfText_text hes.lines]
    exact forall₂_spelledBy_write hes.lines
  · obtain ⟨hook, fields⟩ := o
    obtain rfl : hook = none := h.plain
    rw [outline, hes.declared]
    exact (setAll_fields h.names).symm

/-- The lines of the bytes of a text are the lines of the text. -/
theorem linesOfBytes_ofText (text : String) :
    linesOfBytes (Bytes.ofText text) = linesOfText text.toList := by
  rw [linesOfBytes, linesOfText, Bytes.ofText_eq_encode, Lines.split_encode, List.map_map]
  refine List.map_congr_left fun line _ => ?_
  simp

/-- **A text is read like its bytes.** -/
theorem read_eq_readBytes (r : Registry) (text : String) :
    read r text = readBytes r (Bytes.ofText text) := by
  rw [read, readBytes, linesOfBytes_ofText]

/-- Each of the lines states one of the entries. -/
theorem exists_statedBy_of_mem {r : Registry} {raw : List (Option (List Char))} {es : List Entry}
    (h : List.Forall₂ (Entry.StatedBy r) raw es) {line : Option (List Char)} (hline : line ∈ raw) :
    ∃ e, Entry.StatedBy r line e := by
  induction h with
  | nil => exact absurd hline List.not_mem_nil
  | cons hstated _ ih =>
    rcases List.mem_cons.mp hline with rfl | hrest
    · exact ⟨_, hstated⟩
    · exact ih hrest

/-- Lines that state entries are texts. -/
theorem none_not_mem_of_statedBy {r : Registry} {raw : List (Option (List Char))} {es : List Entry}
    (h : List.Forall₂ (Entry.StatedBy r) raw es) : none ∉ raw := by
  intro hnone
  obtain ⟨e, text, -, htext, -⟩ := exists_statedBy_of_mem h hnone
  cases htext

/-- What is read from a file is read from the text that its bytes are. -/
theorem exists_text_of_readBytes {r : Registry} {bytes : Bytes} {o : ObjectValidator}
    (h : readBytes r bytes = .ok o) : ∃ found, bytes = Bytes.ofText found := by
  obtain ⟨es, hstated, -, -⟩ := readAll_eq_ok_iff.mp h
  have hlines : ∀ p ∈ Lines.cut 10 bytes, ∃ line, Lines.dropReturn 13 p = Bytes.encode line := by
    intro p hp
    have hraw : (Bytes.decode? (Lines.dropReturn 13 p)).map String.toList ∈ linesOfBytes bytes :=
      List.mem_map_of_mem (List.mem_map_of_mem hp)
    cases htext : Bytes.decode? (Lines.dropReturn 13 p) with
    | none =>
      rw [htext] at hraw
      exact absurd hraw (none_not_mem_of_statedBy hstated)
    | some text =>
      exact ⟨text.toList, by rw [Bytes.decode?_eq_some_iff.mp htext, Bytes.ofText_eq_encode]⟩
  obtain ⟨text, htext⟩ := Lines.exists_encode_of_isCut (Lines.isCut_cut 10 bytes) hlines
  exact ⟨String.ofList text, by rw [htext, Bytes.ofText_eq_encode, String.toList_ofList]⟩

/-- **Reading and writing are inverse on trees.**  With the kinds of a registry,
the trees that are read from files are exactly the expressible ones, and these
are exactly the trees that are read back from what is written for them. -/
theorem reading_inverts_writing (r : Registry) (o : ObjectValidator) :
    ((∃ bytes, readBytes r bytes = .ok o) ↔ IsExpressible r o) ∧
      (read r (write o) = .ok o ↔ IsExpressible r o) := by
  have hread : ∀ bytes, readBytes r bytes = .ok o → IsExpressible r o := fun bytes h =>
    isExpressible_of_outlines (readAll_eq_ok_iff.mp h)
  have hwrite : IsExpressible r o → read r (write o) = .ok o := fun h =>
    readAll_eq_ok_iff.mpr (outlines_write h)
  refine ⟨⟨fun ⟨bytes, h⟩ => hread bytes h, fun h => ?_⟩, fun h => ?_, hwrite⟩
  · exact ⟨_, read_eq_readBytes r (write o) ▸ hwrite h⟩
  · rw [read_eq_readBytes] at h
    exact hread _ h

end DocSchema.Notation
