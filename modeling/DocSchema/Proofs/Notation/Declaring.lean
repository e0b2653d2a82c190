import DocSchema.Proofs.Failure.Declared
import DocSchema.Proofs.Notation.Canonical

/-!
# The line of a field

A line declares a field of the object whose lines it stands among, so it has a path:
the names of the lines that it stands below, and its own (`Line.placed`).  A name may be
declared again, and then the later line counts, with the lines below it.  So the line of
a field is the last one with the path of the field (`IsLineOf`), and positions that lead
to a validator name the path of the line that declares it (`isLastAt_of_leads`).  The
validator that refused a document has the type of its line
(`Notation.exists_isLineOf_of_validate`).

Of two lines with one name only the lines below the later one are left.  A path that
goes through the name is found below it, since the lines after it, and those below
them, go through other names.
-/
namespace DocSchema

/-! ## Paths of lines -/

namespace Line

/-- The path of a line, from the path of the line before it. -/
def pathAfter (before : List String) (l : Line) : List String := before.take l.depth ++ [l.name]

/-- Lines with their paths, from the path of the line before them. -/
def placed (before : List String) : List Line → List (List String × Line)
  | [] => []
  | l :: ls => (l.pathAfter before, l) :: placed (l.pathAfter before) ls

theorem placed_append (before : List String) (xs ys : List Line) :
    placed before (xs ++ ys) = placed before xs ++ placed (xs.foldl pathAfter before) ys := by
  induction xs generalizing before with
  | nil => rfl
  | cons x xs ih => rw [List.cons_append, placed, ih, placed, List.cons_append, List.foldl_cons]

/-- Below a depth the path stays as it is. -/
theorem take_pathAfter {before : List String} {l : Line} {depth : Nat}
    (hbefore : depth ≤ before.length) (hl : depth ≤ l.depth) :
    (l.pathAfter before).take depth = before.take depth ∧ depth < (l.pathAfter before).length := by
  have hlength : depth ≤ (before.take l.depth).length := by
    rw [List.length_take]
    exact Nat.le_min.mpr ⟨hl, hbefore⟩
  constructor
  · rw [pathAfter, List.take_append_of_le_length hlength, List.take_take, Nat.min_eq_left hl]
  · rw [pathAfter, List.length_append, List.length_singleton]
    exact Nat.lt_succ_of_le hlength

theorem take_foldl_pathAfter {before : List String} {ls : List Line} {depth : Nat}
    (hbefore : depth ≤ before.length) (hdeep : ∀ l ∈ ls, depth ≤ l.depth) :
    (ls.foldl pathAfter before).take depth = before.take depth ∧
      depth ≤ (ls.foldl pathAfter before).length := by
  induction ls generalizing before with
  | nil => exact ⟨rfl, hbefore⟩
  | cons l ls ih =>
    rw [List.forall_mem_cons] at hdeep
    obtain ⟨htake, hlength⟩ := take_pathAfter hbefore hdeep.1
    rw [List.foldl_cons, ← htake]
    exact ih (Nat.le_of_lt hlength) hdeep.2

/-- Lines from a depth on have longer paths. -/
theorem lt_length_of_mem_placed {before : List String} {ls : List Line} {depth : Nat}
    (hbefore : depth ≤ before.length) (hdeep : ∀ l ∈ ls, depth ≤ l.depth) :
    ∀ p ∈ placed before ls, depth < p.1.length := by
  induction ls generalizing before with
  | nil => exact fun p hp => absurd hp List.not_mem_nil
  | cons l ls ih =>
    rw [List.forall_mem_cons] at hdeep
    have hlength := (take_pathAfter hbefore hdeep.1).2
    exact List.forall_mem_cons.mpr ⟨hlength, ih (Nat.le_of_lt hlength) hdeep.2⟩

/-- The name at a depth in a path is that of a line of this depth, or it was there before. -/
theorem getElem?_of_mem_placed {before : List String} {ls : List Line} {depth : Nat}
    (hbefore : depth < before.length) (hdeep : ∀ l ∈ ls, depth ≤ l.depth) :
    ∀ p ∈ placed before ls,
      p.1[depth]? = before[depth]? ∨ ∃ l ∈ ls, l.depth = depth ∧ p.1[depth]? = some l.name := by
  induction ls generalizing before with
  | nil => exact fun p hp => absurd hp List.not_mem_nil
  | cons l ls ih =>
    rw [List.forall_mem_cons] at hdeep
    have hlength := (take_pathAfter (Nat.le_of_lt hbefore) hdeep.1).2
    have hname : (l.pathAfter before)[depth]? = before[depth]? ∨
        (l.depth = depth ∧ (l.pathAfter before)[depth]? = some l.name) := by
      rcases Nat.eq_or_lt_of_le hdeep.1 with rfl | hlt
      · refine .inr ⟨rfl, ?_⟩
        rw [pathAfter, List.getElem?_append_right (List.length_take_le _ _)]
        simp [Nat.min_eq_left (Nat.le_of_lt hbefore)]
      · left
        rw [pathAfter, List.getElem?_append_left (by simp; omega), List.getElem?_take_of_lt hlt]
    rw [placed, List.forall_mem_cons]
    refine ⟨?_, fun p hp => ?_⟩
    · rcases hname with hname | ⟨hdepth, hname⟩
      · exact .inl hname
      · exact .inr ⟨l, List.mem_cons_self, hdepth, hname⟩
    · rcases ih hlength hdeep.2 p hp with hp | ⟨l', hl', hdepth, hp⟩
      · rcases hname with hname | ⟨hdepth, hname⟩
        · exact .inl (hp.trans hname)
        · exact .inr ⟨l, List.mem_cons_self, hdepth, hp.trans hname⟩
      · exact .inr ⟨l', List.mem_cons_of_mem _ hl', hdepth, hp⟩

theorem map_snd_placed (before : List String) (ls : List Line) :
    (placed before ls).map Prod.snd = ls := by
  induction ls generalizing before with
  | nil => rfl
  | cons l ls ih => rw [placed, List.map_cons, ih]

/-- The paths of lines. -/
def paths (ls : List Line) : List (List String) := (placed [] ls).map Prod.fst

end Line

/-! ## The last field of a name -/

namespace Keyed
variable {α : Type}

theorem get?_of_mem {entries : Keyed α} (hkeys : entries.keys.Nodup) {key : String} {value : α}
    (h : (key, value) ∈ entries) : entries.get? key = some value := by
  induction entries with
  | nil => exact absurd h List.not_mem_nil
  | cons first rest ih =>
    obtain ⟨k, v⟩ := first
    rw [keys_cons, List.nodup_cons] at hkeys
    rw [get?_cons]
    rcases List.mem_cons.mp h with heq | h
    · obtain ⟨rfl, rfl⟩ := Prod.mk.inj heq
      exact if_pos rfl
    · have hne : k ≠ key := by
        rintro rfl
        exact hkeys.1 (List.mem_map.mpr ⟨_, h, rfl⟩)
      rw [if_neg hne, ih hkeys.2 h]

/-- What is found from the end is the last entry of its name. -/
theorem exists_last_of_get?_reverse {entries : Keyed α} {key : String} {value : α}
    (h : Keyed.get? entries.reverse key = some value) :
    ∃ front back, entries = front ++ (key, value) :: back ∧ key ∉ Keyed.keys back := by
  induction entries with
  | nil => cases h
  | cons first rest ih =>
    obtain ⟨k, v⟩ := first
    rw [List.reverse_cons, get?_append] at h
    cases hrest : Keyed.get? rest.reverse key with
    | some w =>
      rw [hrest] at h
      obtain rfl := Option.some.inj h
      obtain ⟨front, back, rfl, hback⟩ := ih hrest
      exact ⟨(k, v) :: front, back, rfl, hback⟩
    | none =>
      have hnot : key ∉ Keyed.keys rest := by
        have hreverse := mem_keys_iff rest.reverse key
        rw [hrest, keys, List.map_reverse, List.mem_reverse] at hreverse
        exact fun hmem => absurd (hreverse.mp hmem) (by simp)
      rw [hrest, Option.none_or, get?_cons] at h
      split at h
      · rename_i hk
        obtain rfl := Option.some.inj h
        exact ⟨[], rest, by rw [hk]; rfl, hnot⟩
      · cases h

end Keyed

/-- A field of a finished object is the last one that was entered under its name. -/
theorem ObjectValidator.exists_last_of_mem_setAll {o : ObjectValidator} (ho : o.fields = [])
    {fields : List (String × Validator)} {name : String} {v : Validator}
    (h : (name, v) ∈ (o.setAll fields).fields) :
    ∃ front back, fields = front ++ (name, v) :: back ∧ name ∉ Keyed.keys back := by
  have hnodup : (o.setAll fields).keys.Nodup :=
    nodup_keys_setAll (by rw [keys, ho]; exact List.nodup_nil) fields
  have hget : (o.setAll fields).get? name = some v := Keyed.get?_of_mem hnodup h
  have hnone : o.get? name = none := by rw [get?, ho]; rfl
  rw [get?_setAll, hnone, Option.or_none] at hget
  exact Keyed.exists_last_of_get?_reverse hget

namespace Notation

theorem mem_keys_declaredAt {depth : Nat} {es : List Entry} {e : Entry} (he : e ∈ es)
    (hdepth : e.depth = depth) : e.name ∈ Keyed.keys (declaredAt depth es) := by
  induction es with
  | nil => exact absurd he List.not_mem_nil
  | cons first rest ih =>
    by_cases hfirst : first.depth = depth
    · rw [declaredAt_cons rest hfirst, Keyed.keys_cons]
      rcases List.mem_cons.mp he with rfl | he
      · exact List.mem_cons_self
      · exact List.mem_cons_of_mem _ (ih he)
    · rw [declaredAt, if_neg hfirst]
      rcases List.mem_cons.mp he with rfl | he
      · exact absurd hdepth hfirst
      · exact ih he

/-- Each field at a depth is declared by a line, and what the lines below it declare is in it. The
fields after it are those of the lines after its body. -/
theorem exists_entry_of_declaredAt {depth : Nat} {es : List Entry}
    {front back : List (String × Validator)} {name : String} {v : Validator}
    (h : declaredAt depth es = front ++ (name, v) :: back) :
    ∃ before e rest, es = before ++ e :: rest ∧ e.depth = depth ∧ e.name = name ∧
      v = e.declared.validator (declaredAt (depth + 1) (rest.takeWhile (depth < ·.depth))) ∧
      back = declaredAt depth (rest.dropWhile (depth < ·.depth)) := by
  induction es generalizing front with
  | nil => simp [declaredAt_nil] at h
  | cons first rest ih =>
    have hlater : ∀ front, declaredAt depth rest = front ++ (name, v) :: back →
        ∃ before e rest', first :: rest = before ++ e :: rest' ∧ e.depth = depth ∧ e.name = name ∧
          v = e.declared.validator (declaredAt (depth + 1) (rest'.takeWhile (depth < ·.depth))) ∧
          back = declaredAt depth (rest'.dropWhile (depth < ·.depth)) := by
      intro front hfront
      obtain ⟨before, e, rest', rfl, hline⟩ := ih hfront
      exact ⟨first :: before, e, rest', rfl, hline⟩
    by_cases hfirst : first.depth = depth
    · rw [declaredAt_cons rest hfirst] at h
      cases front with
      | nil =>
        obtain ⟨hfield, rfl⟩ := List.cons.inj h
        obtain ⟨rfl, rfl⟩ := Prod.mk.inj hfield
        exact ⟨[], first, rest, rfl, hfirst, rfl, rfl, (declaredAt_dropWhile depth rest).symm⟩
      | cons _ front => exact hlater front (List.cons.inj h).2
    · rw [declaredAt, if_neg hfirst] at h
      exact hlater front h

/-- **What is required at a position is declared by a line**, the last one of its name at this
depth. -/
theorem exists_entry_of_requires {o : ObjectValidator} (ho : o.fields = []) {depth : Nat}
    {es : List Entry} {pos : Position} {v : Validator}
    (h : Requires (o.setAll (declaredAt depth es)).fields pos v) :
    ∃ before e rest, es = before ++ e :: rest ∧ e.depth = depth ∧ e.name = pos.name ∧
      (∀ e' ∈ rest.dropWhile (depth < ·.depth), e'.depth = depth → e'.name ≠ pos.name) ∧
      ∃ w, w = e.declared.validator (declaredAt (depth + 1) (rest.takeWhile (depth < ·.depth))) ∧
        w.token = v.token ++ pos.mark ∧
        ∀ hook inner, v = .object hook inner → w.declared = inner := by
  have hentry : ∀ w, (pos.name, w) ∈ (o.setAll (declaredAt depth es)).fields →
      ∃ before e rest, es = before ++ e :: rest ∧ e.depth = depth ∧ e.name = pos.name ∧
        (∀ e' ∈ rest.dropWhile (depth < ·.depth), e'.depth = depth → e'.name ≠ pos.name) ∧
        w = e.declared.validator (declaredAt (depth + 1) (rest.takeWhile (depth < ·.depth))) := by
    intro w hw
    obtain ⟨front, back, hfields, hback⟩ := ObjectValidator.exists_last_of_mem_setAll ho hw
    obtain ⟨before, e, rest, hes, hdepth, hname, hvalidator, rfl⟩ :=
      exists_entry_of_declaredAt hfields
    exact ⟨before, e, rest, hes, hdepth, hname,
      fun e' he' hdepth' hname' => hback (hname' ▸ mem_keys_declaredAt he' hdepth'), hvalidator⟩
  cases h with
  | member hfield =>
    obtain ⟨before, e, rest, hes, hdepth, hname, hlast, hvalidator⟩ := hentry _ hfield
    refine ⟨before, e, rest, hes, hdepth, hname, hlast, v, hvalidator, by simp [Position.mark], ?_⟩
    rintro hook inner rfl
    rfl
  | item i hfield =>
    obtain ⟨before, e, rest, hes, hdepth, hname, hlast, hvalidator⟩ := hentry _ hfield
    refine ⟨before, e, rest, hes, hdepth, hname, hlast, .array v, hvalidator,
      by simp [Position.mark, Validator.token], ?_⟩
    rintro hook inner rfl
    rfl

/-! ## The line of a validator -/

/-- **An entry of a list stands last of those with a key.** -/
def IsLastAt {β γ : Type} (xs : List (β × γ)) (key : β) (value : γ) : Prop :=
  ∃ front back, xs = front ++ (key, value) :: back ∧ ∀ x ∈ back, x.1 ≠ key

theorem IsLastAt.cons {β γ : Type} {x : β × γ} {xs : List (β × γ)} {key : β} {value : γ}
    (h : IsLastAt xs key value) : IsLastAt (x :: xs) key value := by
  obtain ⟨front, back, rfl, hback⟩ := h
  exact ⟨x :: front, back, rfl, hback⟩

theorem IsLastAt.append {β γ : Type} {xs : List (β × γ)} {key : β} {value : γ}
    (h : IsLastAt xs key value) (before : List (β × γ)) {after : List (β × γ)}
    (hafter : ∀ x ∈ after, x.1 ≠ key) : IsLastAt (before ++ (xs ++ after)) key value := by
  obtain ⟨front, back, rfl, hback⟩ := h
  refine ⟨before ++ front, back ++ after, by simp, fun x hx => ?_⟩
  exact (List.mem_append.mp hx).elim (hback x) (hafter x)

/-- The lines around the body of a line, with their paths. -/
theorem exists_placed_body {depth : Nat} {before : List String} (hbefore : depth ≤ before.length)
    {front rest : List Entry} {e : Entry} (hdepth : e.depth = depth)
    (hdeep : ∀ e' ∈ front ++ e :: rest, depth ≤ e'.depth) :
    ∃ head next, depth ≤ next.length ∧
      Line.placed before ((front ++ e :: rest).map Entry.line) =
        head ++ ((before.take depth ++ [e.name], e.line) ::
          Line.placed (before.take depth ++ [e.name])
            ((rest.takeWhile (depth < ·.depth)).map Entry.line) ++
          Line.placed next ((rest.dropWhile (depth < ·.depth)).map Entry.line)) := by
  -- Whatever the lines in front declare, the path above this depth stays as it is.
  have hfront : ∀ l ∈ front.map Entry.line, depth ≤ l.depth :=
    List.forall_mem_map.mpr fun e' he' => hdeep e' (List.mem_append_left _ he')
  obtain ⟨htake, hlength⟩ := Line.take_foldl_pathAfter hbefore hfront
  have hpath : e.line.pathAfter ((front.map Entry.line).foldl Line.pathAfter before) =
      before.take depth ++ [e.name] := by
    rw [← htake, Line.pathAfter, show e.line.depth = depth from hdepth]
    rfl
  have hbody : ∀ l ∈ (rest.takeWhile (depth < ·.depth)).map Entry.line, depth ≤ l.depth := by
    refine List.forall_mem_map.mpr fun e' he' => hdeep e' ?_
    exact List.mem_append_right _ (List.mem_cons_of_mem _ ((List.takeWhile_sublist _).subset he'))
  have hpathLength : depth ≤ (before.take depth ++ [e.name]).length := by
    simp only [List.length_append, List.length_take, List.length_singleton]
    omega
  refine ⟨Line.placed before (front.map Entry.line), _,
    (Line.take_foldl_pathAfter hpathLength hbody).2, ?_⟩
  rw [List.map_append, Line.placed_append, List.map_cons, Line.placed, hpath, List.cons_append,
    ← Line.placed_append, ← List.map_append, List.takeWhile_append_dropWhile]

/-- The paths of the lines after the body of a line go through other names. -/
theorem ne_of_mem_placed_dropWhile {depth : Nat} {name : String} {rest : List Entry}
    (hclimbs : Climbs depth (rest.dropWhile (depth < ·.depth)))
    (hdeep : ∀ e ∈ rest, depth ≤ e.depth)
    (hnames : ∀ e ∈ rest.dropWhile (depth < ·.depth), e.depth = depth → e.name ≠ name)
    {before : List String} (hbefore : depth ≤ before.length) (path : List String)
    (hpath : path[depth]? = some name) :
    ∀ p ∈ Line.placed before ((rest.dropWhile (depth < ·.depth)).map Entry.line), p.1 ≠ path := by
  have htail : ∀ e ∈ rest.dropWhile (depth < ·.depth), depth ≤ e.depth := fun e he =>
    hdeep e ((List.dropWhile_sublist _).subset he)
  cases hrest : rest.dropWhile (depth < ·.depth) with
  | nil => exact fun p hp => absurd hp List.not_mem_nil
  | cons e more =>
    rw [hrest] at hclimbs hnames htail
    have hdepth : e.depth = depth := Nat.le_antisymm hclimbs.1 (htail e List.mem_cons_self)
    have hfirst : (e.line.pathAfter before)[depth]? = some e.name := by
      rw [Line.pathAfter, show e.line.depth = depth from hdepth,
        List.getElem?_append_right (List.length_take_le _ _), List.length_take,
        Nat.min_eq_left hbefore, Nat.sub_self]
      rfl
    have hmore : ∀ l ∈ more.map Entry.line, depth ≤ l.depth :=
      List.forall_mem_map.mpr fun e' he' => htail e' (List.mem_cons_of_mem _ he')
    have hlength := (Line.take_pathAfter (l := e.line) hbefore (Nat.le_of_eq hdepth.symm)).2
    -- Whatever line it is, the name at the depth is that of a line of this depth.
    have hother : ∀ e' ∈ e :: more, e'.depth = depth → ∀ p : List String, p[depth]? = some e'.name →
        p ≠ path := by
      rintro e' he' hdepth' p hp rfl
      exact hnames e' he' hdepth' (Option.some.inj (hp.symm.trans hpath))
    rw [List.map_cons, Line.placed, List.forall_mem_cons]
    refine ⟨hother e List.mem_cons_self hdepth _ hfirst, fun p hp => ?_⟩
    rcases Line.getElem?_of_mem_placed hlength hmore p hp with hname | ⟨l, hl, hdepth', hname⟩
    · exact hother e List.mem_cons_self hdepth _ (hname.trans hfirst)
    · obtain ⟨e', he', rfl⟩ := List.mem_map.mp hl
      exact hother e' (List.mem_cons_of_mem _ he') hdepth' _ hname

/-- What follows a line climbs, below it and after its body. -/
theorem Climbs.parts {depth : Nat} {front rest : List Entry} {e : Entry} (hdepth : e.depth = depth)
    (h : Climbs depth (front ++ e :: rest)) :
    Climbs (depth + e.declared.room) (rest.takeWhile (depth < ·.depth)) ∧
      Climbs depth (rest.dropWhile (depth < ·.depth)) := by
  have hrest : Climbs (depth + e.declared.room) rest :=
    hdepth ▸ (h.of_append (Nat.le_of_eq hdepth)).2
  refine ⟨?_, hrest.dropWhile⟩
  rw [← List.takeWhile_append_dropWhile (p := (depth < ·.depth)) (l := rest)] at hrest
  exact hrest.left_of_append

/-- The fields below a line are those of the object that it opens. -/
theorem Denotes.exists_opens {r : Registry} {token : String} {d : Declared} (h : Denotes r token d)
    {fields inner : List (String × Validator)} (hinner : (d.validator fields).declared = inner)
    (hne : inner ≠ []) :
    ∃ o : ObjectValidator, o.fields = [] ∧ inner = (o.setAll fields).fields ∧ d.room = 1 := by
  cases d with
  | leaf v => exact absurd (hinner.symm.trans h.declared_leaf) hne
  | opens o isArray =>
    refine ⟨o, h.fresh.2, ?_, rfl⟩
    rw [← hinner]
    cases isArray <;> rfl

/-- **A line declares what is required at a position**, together with the lines below it: among
lines of a depth it is the last one of that name, and no line after its body goes through the
name. -/
structure IsDeclaredBy (depth : Nat) (before : List String) (es : List Entry) (pos : Position)
    (v : Validator) (e : Entry) (body : List Entry) : Prop where
  mem : e ∈ es
  body_subset : body ⊆ es
  body_deeper : ∀ e' ∈ body, depth + 1 ≤ e'.depth
  body_climbs : Climbs (depth + e.declared.room) body
  token_eq : (e.declared.validator (declaredAt (depth + 1) body)).token = v.token ++ pos.mark
  declared_eq : ∀ hook inner, v = .object hook inner →
    (e.declared.validator (declaredAt (depth + 1) body)).declared = inner
  placed_eq : ∃ head tail, Line.placed before (es.map Entry.line) =
      head ++ ((before.take depth ++ [pos.name], e.line) ::
        Line.placed (before.take depth ++ [pos.name]) (body.map Entry.line) ++ tail) ∧
    ∀ p ∈ tail, ∀ more, p.1 ≠ before.take depth ++ [pos.name] ++ more

theorem exists_isDeclaredBy {o : ObjectValidator} (ho : o.fields = []) {depth : Nat}
    {es : List Entry} (hclimbs : Climbs depth es) (hdeep : ∀ e ∈ es, depth ≤ e.depth)
    {before : List String} (hbefore : depth ≤ before.length) {pos : Position} {v : Validator}
    (h : Requires (o.setAll (declaredAt depth es)).fields pos v) :
    ∃ e body, IsDeclaredBy depth before es pos v e body := by
  obtain ⟨front, e, rest, rfl, hdepth, hname, hnames, w, rfl, htoken, hdeclared⟩ :=
    exists_entry_of_requires ho h
  obtain ⟨head, next, hnext, hplaced⟩ := exists_placed_body hbefore hdepth hdeep
  have hrest : rest ⊆ front ++ e :: rest := fun e' he' =>
    List.mem_append_right _ (List.mem_cons_of_mem _ he')
  obtain ⟨hbodyClimbs, hrestClimbs⟩ := hclimbs.parts hdepth
  refine ⟨e, rest.takeWhile (depth < ·.depth), by simp,
    List.Subset.trans (List.takeWhile_sublist _).subset hrest, fun e' he' => ?_, hbodyClimbs,
    htoken, hdeclared, head, _, hname ▸ hplaced, fun p hp more => ?_⟩
  · exact of_decide_eq_true (List.all_eq_true.mp List.all_takeWhile e' he')
  · have hafter :=
      ne_of_mem_placed_dropWhile hrestClimbs (fun e' he' => hdeep e' (hrest he')) hnames hnext
    refine hafter _ ?_ p hp
    simp [Nat.min_eq_left hbefore]

/-- **Positions name the path of the line that declares the validator they lead to.** -/
theorem isLastAt_of_leads {r : Registry} {fields : List (String × Validator)} {ps : List Position}
    {v : Validator} (h : Leads fields ps v) {last : Position} (hlast : ps.getLast? = some last)
    {o : ObjectValidator} (ho : o.fields = []) {depth : Nat} {es : List Entry}
    (hfields : fields = (o.setAll (declaredAt depth es)).fields) (hclimbs : Climbs depth es)
    (hdeep : ∀ e ∈ es, depth ≤ e.depth) (hmeans : ∀ e ∈ es, ∃ token, Denotes r token e.declared)
    {before : List String} (hbefore : depth ≤ before.length) :
    ∃ l, IsLastAt (Line.placed before (es.map Entry.line))
        (before.take depth ++ ps.map (·.name)) l ∧
      l.token = v.token ++ last.mark := by
  -- By induction on the positions: the lines of the rest are the body of the line of the first.
  induction h generalizing o depth es before with
  | @here fields pos v hrequires =>
    obtain rfl : pos = last := by simpa using hlast
    obtain ⟨e, body, hline⟩ := exists_isDeclaredBy ho hclimbs hdeep hbefore (hfields ▸ hrequires)
    obtain ⟨head, tail, hplaced, htail⟩ := hline.placed_eq
    obtain ⟨token, hdenotes⟩ := hmeans e hline.mem
    have hlength : (before.take depth ++ [pos.name]).length = depth + 1 := by
      simp [Nat.min_eq_left hbefore]
    have hbody : ∀ p ∈ Line.placed (before.take depth ++ [pos.name]) (body.map Entry.line),
        p.1 ≠ before.take depth ++ [pos.name] := by
      rintro p hp heq
      have hlonger := Line.lt_length_of_mem_placed (Nat.le_of_eq hlength.symm)
        (List.forall_mem_map.mpr hline.body_deeper) p hp
      rw [heq, hlength] at hlonger
      exact Nat.lt_irrefl _ hlonger
    refine ⟨e.line, hplaced ▸ IsLastAt.append ⟨[], _, rfl, hbody⟩ head fun p hp => ?_, ?_⟩
    · simpa using htail p hp []
    · rw [← hline.token_eq, hdenotes.token_eq, ← hdenotes.token_eq []]
      rfl
  | @deeper fields inner hook pos rest v hrequires hleads ih =>
    -- A field is led to inside, so the line opens an object.
    have hinner : inner ≠ [] := by
      rintro rfl
      cases hleads with
      | here h => cases h <;> contradiction
      | deeper h _ => cases h <;> contradiction
    obtain ⟨e, body, hline⟩ := exists_isDeclaredBy ho hclimbs hdeep hbefore (hfields ▸ hrequires)
    obtain ⟨head, tail, hplaced, htail⟩ := hline.placed_eq
    obtain ⟨token, hdenotes⟩ := hmeans e hline.mem
    obtain ⟨o', ho', hfields', hroom⟩ :=
      hdenotes.exists_opens (hline.declared_eq hook inner rfl) hinner
    have hpath : depth + 1 = (before.take depth ++ [pos.name]).length := by
      simp [Nat.min_eq_left hbefore]
    have hlast' := (List.getLast?_cons_of_ne_nil hleads.ne_nil).symm.trans hlast
    obtain ⟨l, hbody, htoken⟩ :=
      ih hlast' ho' hfields' (hroom ▸ hline.body_climbs) hline.body_deeper
      (fun e' he' => hmeans e' (hline.body_subset he')) (Nat.le_of_eq hpath)
    rw [hpath, List.take_length] at hbody
    have hkey : before.take depth ++ [pos.name] ++ rest.map (·.name) =
        before.take depth ++ (pos :: rest).map (·.name) := by simp
    exact ⟨l, hkey ▸ hplaced ▸ hbody.cons.append head fun p hp => htail p hp _, htoken⟩

/-! ## The line of a failure -/

/-- **The line of a field**, at its index among the lines: the last one with the path of the
field. -/
structure IsLineOf (ls : List Line) (path : List String) (n : Nat) (l : Line) : Prop where
  line_eq : ls[n]? = some l
  path_eq : (Line.paths ls)[n]? = some path
  last : ∀ m, n < m → (Line.paths ls)[m]? ≠ some path

theorem IsLastAt.exists_isLineOf {ls : List Line} {path : List String} {l : Line}
    (h : IsLastAt (Line.placed [] ls) path l) : ∃ n, IsLineOf ls path n l := by
  obtain ⟨front, back, hplaced, hback⟩ := h
  refine ⟨front.length, ?_, ?_, ?_⟩
  · rw [← Line.map_snd_placed [] ls, hplaced]
    simp
  · rw [Line.paths, hplaced]
    simp
  · intro m hm hpath
    obtain ⟨k, rfl⟩ := Nat.exists_eq_add_of_lt hm
    rw [Line.paths, hplaced, List.map_append, List.map_cons,
      List.getElem?_append_right (by simp; omega), List.length_map, Nat.add_assoc,
      Nat.add_sub_cancel_left, List.getElem?_cons_succ] at hpath
    obtain ⟨p, hp, hfirst⟩ := List.mem_map.mp (List.mem_of_getElem? hpath)
    exact hback p hp hfirst

/-- A field has one line, and where it stands is up to the paths alone. -/
theorem IsLineOf.index_eq {ls ls' : List Line} {path : List String} {n n' : Nat} {l l' : Line}
    (h : IsLineOf ls path n l) (h' : IsLineOf ls' path n' l')
    (hpaths : Line.paths ls = Line.paths ls') : n = n' := by
  rcases Nat.lt_trichotomy n n' with hlt | heq | hlt
  · exact absurd (hpaths ▸ h'.path_eq) (h.last n' hlt)
  · exact heq
  · exact absurd (hpaths ▸ h.path_eq) (h'.last n hlt)

/-- The lines of a text, without their ends. -/
def linesIn (text : String) : List (List Char) := Lines.split '\n' '\r' text.toList

/-- The declarations in a text, line by line. -/
def declarations (text : String) : List Line := (linesIn text).filterMap Line.read?

/-- Each line of a schema text is a declaration. -/
theorem map_read?_of_statedBy {r : Registry} {lines : List (List Char)} {es : List Entry}
    (h : List.Forall₂ (Entry.StatedBy r) (lines.map some) es) :
    lines.map Line.read? = (es.map Entry.line).map some := by
  induction lines generalizing es with
  | nil =>
    cases h
    rfl
  | cons line lines ih =>
    cases h with
    | cons hstated hrest =>
      obtain ⟨l, ⟨_, htext, hspells⟩, hmean⟩ := statedBy_iff.mp hstated
      obtain rfl := Option.some.inj htext
      rw [List.map_cons, List.map_cons, List.map_cons, ih hrest, Line.read?_eq_some_iff.mpr hspells,
        hmean.line_eq]

theorem declarations_eq {text : String} {ls : List Line}
    (h : (linesIn text).map Line.read? = ls.map some) : declarations text = ls := by
  have hread := congrArg (List.filterMap id) h
  rwa [List.filterMap_map, List.filterMap_map, Function.id_comp, Function.id_comp,
    List.filterMap_some] at hread

/-- The line that a declaration was read from. -/
theorem exists_line_of_declarations {r : Registry} {text : String} {o : ObjectValidator}
    (hread : read r text = .ok o) {n : Nat} {l : Line} (hl : (declarations text)[n]? = some l) :
    ∃ line, (linesIn text)[n]? = some line ∧ Line.read? line = some l := by
  obtain ⟨es, hstated, -, -⟩ := readAll_eq_ok_iff.mp hread
  have hlines := map_read?_of_statedBy hstated
  rw [declarations_eq hlines] at hl
  have hline : ((linesIn text).map Line.read?)[n]? = some (some l) := by
    rw [linesIn, hlines, List.getElem?_map, hl]
    rfl
  rwa [List.getElem?_map, Option.map_eq_some_iff] at hline

/-- **The line of a failure.**  A failure with a schema that is read from a text names the path of a
line, and the validator at fault has the type that this line declares: the type itself, or that of
the elements if the fault is an element of an array. -/
theorem exists_isLineOf_of_validate {r : Registry} {text : String} {o : ObjectValidator}
    (hread : read r text = .ok o) {d : Json} {f : Failure} (h : Schema.validate ⟨o⟩ d = .error f) :
    ∃ e around n l, f.trace = e :: around ∧ (∀ e' ∈ around, e'.reason = .nested) ∧
      IsLineOf (declarations text) (f.positions.map (·.name)) n l ∧
      l.token = e.validator ++ e.position.mark := by
  obtain ⟨es, hstated, hclimbs, rfl⟩ := readAll_eq_ok_iff.mp hread
  obtain ⟨ls, -, hmeans⟩ := forall₂_statedBy_iff.mp hstated
  have hdenotes := (map_line_of_means hmeans).2
  rw [read_eq_readBytes] at hread
  have hplain := (isExpressible_of_outlines (readAll_eq_ok_iff.mp hread)).plain
  have hflat := flatArrays_of_readBytes hread
  obtain ⟨e, v, he, hlast, hleads, hvalidator⟩ := Schema.leads_of_validate (s := ⟨_⟩) hplain hflat h
  have hnested := Schema.nested_of_validate (s := ⟨_⟩) hflat h
  obtain ⟨l, hline, htoken⟩ := isLastAt_of_leads hleads hlast rfl rfl hclimbs
    (fun e _ => Nat.zero_le e.depth) hdenotes (Nat.zero_le [].length)
  rw [List.take_nil, List.nil_append] at hline
  obtain ⟨n, hn⟩ := hline.exists_isLineOf
  rw [declarations_eq (map_read?_of_statedBy hstated)]
  exact ⟨e, f.trace.tail, n, l, List.eq_cons_of_mem_head? he, hnested, hn, hvalidator ▸ htoken⟩

end Notation

end DocSchema
