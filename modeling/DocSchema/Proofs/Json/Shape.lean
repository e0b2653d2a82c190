import DocSchema.Json.Shape
import DocSchema.Proofs.Json.Printed

/-!
# Values of a known shape

Two facts about each reader of shapes.  It reads back what is printed for a value of its
shape (`ReadsBack`).  And whatever text it reads, the values that it yields keep a bound
that those of its parts keep (`Yields`): records may be objects or arrays, with members in
any order, and the bound holds all the same.
-/
namespace DocSchema.Json.Shape
open Reader

variable {α β : Type}

/-! ## Reading back -/

theorem readsBack_text (s : String) : ReadsBack text (Json.string s).compact s where
  start := ⟨'"', _, compact_string s, rfl, by decide⟩
  reads rest _ := by
    rw [compact_string, quote_append, text, skipBlanks_cons rfl]
    exact string_quote s rest

theorem readsBack_natural {n : Nat} (hn : n < UInt64.size) :
    ReadsBack natural (nat n).compact n := by
  obtain ⟨c, cs, htext, hc⟩ := toDigits_eq_cons n
  rw [compact_nat]
  refine ⟨⟨c, cs, htext, isBlank_of_isDigit hc, ?_⟩, fun rest hrest => ?_⟩
  · rintro rfl
    exact absurd hc (by decide)
  · have hnumber := number_toDigits hn hrest
    rw [htext, List.cons_append] at hnumber ⊢
    rw [natural, skipBlanks_cons (isBlank_of_isDigit hc)]
    simp only [hc, or_true, if_true, hnumber]

/-- An absent value is printed as null, so no present value may begin like it. -/
theorem readsBack_optional {read : Read α} {o : Option α} {toJson : α → Json}
    (h : ∀ v ∈ o, ReadsBack read (toJson v).compact v ∧ (toJson v).compact.head? ≠ some 'n') :
    ReadsBack (optional read) (ofOption (o.map toJson)).compact o := by
  cases o with
  | none =>
    have hnull : (ofOption (none.map toJson)).compact = 'n' :: ['u', 'l', 'l'] := rfl
    rw [hnull]
    refine ⟨⟨'n', _, rfl, rfl, by decide⟩, fun rest _ => ?_⟩
    rw [List.cons_append, optional, skipBlanks_cons rfl]
    exact word_append none _ rest
  | some v =>
    obtain ⟨hread, hhead⟩ := h v rfl
    refine ⟨hread.start, fun rest hrest => ?_⟩
    have hreads := hread.reads rest hrest
    obtain ⟨c, cs, htext, hblank, -⟩ := hread.start
    have hc : c ≠ 'n' := by
      rintro rfl
      exact hhead (by rw [htext]; rfl)
    have hvalue : (ofOption ((some v).map toJson)).compact = (toJson v).compact := rfl
    rw [hvalue]
    rw [htext, List.cons_append] at hreads ⊢
    rw [optional, skipBlanks_cons hblank]
    simp [hc, hreads, Except.map]

theorem readsBack_many {read : Read α} {vs : List Json} {xs : List α}
    (h : List.Forall₂ (fun v x => ReadsBack read v.compact x) vs xs) :
    ReadsBack (many read) (Json.array vs).compact xs := by
  rw [compact_array]
  refine ⟨⟨'[', _, rfl, rfl, by decide⟩, fun rest _ => ?_⟩
  rw [List.cons_append, List.append_assoc, many, skipBlanks_cons rfl]
  exact list_intercalate (List.forall₂_map_left_iff.mpr h) rest

theorem readsBack_name {ofName? : String → Option α} {label : String} {v : α}
    (h : ofName? label = some v) : ReadsBack (name ofName?) (Json.string label).compact v where
  start := ⟨'"', _, compact_string label, rfl, by decide⟩
  reads rest _ := by
    rw [compact_string, quote_append, name, skipBlanks_cons rfl]
    simp only [string_quote, h]

/-! ### Records -/

/-- **A printed record has the fields of a shape**, in their order, with these parts. -/
inductive Fills : List (FieldReader α) → List (String × Json) → List α → Prop where
  | nil : Fills [] [] []
  | cons {key : String} {read : Read α} {v : Json} {part : α} {shape : List (FieldReader α)}
      {members : List (String × Json)} {parts : List α} (field : ReadsBack read v.compact part)
      (others : Fills shape members parts) :
      Fills ((key, read) :: shape) ((key, v) :: members) (part :: parts)

theorem member_of_find? {shape : List (FieldReader α)} {key : String} {read : Read α}
    (h : shape.find? (·.1 = key) = some (key, read)) :
    member shape key = fun s => (read s).map fun (v, rest) => (some (key, v), rest) := by
  funext s
  rw [member, h]

/-- Each member is read by the reader of its field, whatever other fields the shape has. -/
theorem Fills.readsMember {shape : List (FieldReader α)} {members : List (String × Json)}
    {parts : List α} (h : Fills shape members parts) {whole : List (FieldReader α)}
    (hwhole : ∀ f ∈ shape, whole.find? (·.1 = f.1) = some f) :
    List.Forall₂ (ReadsMember (member whole)) (members.map fun m => (m.1, m.2.compact))
      (((shape.map Prod.fst).zip parts).map some) := by
  induction h with
  | nil => exact .nil
  | @cons key read v part shape members parts field others ih =>
    have hfind : whole.find? (·.1 = key) = some (key, read) := hwhole _ List.mem_cons_self
    refine .cons ?_ (ih fun f hf => hwhole f (List.mem_cons_of_mem _ hf))
    rw [ReadsMember, member_of_find? hfind]
    exact field.map fun v => some (key, v)

theorem Fills.length_eq {shape : List (FieldReader α)} {members : List (String × Json)}
    {parts : List α} (h : Fills shape members parts) : shape.length = parts.length := by
  induction h with
  | nil => rfl
  | cons _ _ ih => rw [List.length_cons, List.length_cons, ih]

/-- Fields with different names are found under their names. -/
theorem find?_of_nodup {shape : List (FieldReader α)} (h : (shape.map Prod.fst).Nodup)
    {f : FieldReader α} (hf : f ∈ shape) : shape.find? (·.1 = f.1) = some f := by
  induction shape with
  | nil => exact absurd hf List.not_mem_nil
  | cons g shape ih =>
    rw [List.map_cons, List.nodup_cons] at h
    rcases List.mem_cons.mp hf with rfl | hf
    · exact List.find?_cons_of_pos (by simp)
    · have hne : g.1 ≠ f.1 := fun heq => h.1 (heq ▸ List.mem_map_of_mem hf)
      rw [List.find?_cons_of_neg (by simpa using hne), ih h.2 hf]

/-- Of fields with different names each is the only one under its name. -/
theorem filter_zip_of_nodup {keys : List String} (hkeys : keys.Nodup) {vs : List α} {m : String × α}
    (hm : m ∈ keys.zip vs) : (keys.zip vs).filter (·.1 = m.1) = [m] := by
  induction keys generalizing vs with
  | nil => exact absurd hm List.not_mem_nil
  | cons key keys ih =>
    cases vs with
    | nil => exact absurd hm List.not_mem_nil
    | cons v vs =>
      obtain ⟨hfresh, hkeys⟩ := List.nodup_cons.mp hkeys
      have hother : ∀ n ∈ keys.zip vs, n.1 ≠ key := fun n hn heq =>
        hfresh (heq ▸ (List.of_mem_zip hn).1)
      rw [List.zip_cons_cons, List.mem_cons] at hm
      rw [List.zip_cons_cons]
      rcases hm with rfl | hm
      · rw [List.filter_cons_of_pos (by simp), List.filter_eq_nil_iff.mpr]
        intro n hn
        simpa using hother n hn
      · have hne : key ≠ m.1 := (hother m hm).symm
        rw [List.filter_cons_of_neg (by simpa using hne), ih hkeys hm]

theorem gather_of_filter {members : List (String × α)} {keys : List String} {vs : List α}
    (hlength : keys.length = vs.length)
    (h : ∀ m ∈ keys.zip vs, members.filter (·.1 = m.1) = [m]) :
    gather members keys = some (vs.map some) := by
  induction keys generalizing vs with
  | nil =>
    obtain rfl := List.eq_nil_of_length_eq_zero hlength.symm
    rfl
  | cons key keys ih =>
    cases vs with
    | nil => cases hlength
    | cons v vs =>
      have hfirst := h (key, v) List.mem_cons_self
      have hothers := ih (Nat.succ.inj hlength) fun m hm => h m (List.mem_cons_of_mem _ hm)
      rw [gather, hfirst]
      simp only [hothers, Option.map_some, List.map_cons]

/-- **A record is read back** when its fields are, if no two of them have one name. -/
theorem readsBack_fields {shape : List (FieldReader α)} {members : List (String × Json)}
    {parts : List α} (hnames : (shape.map Prod.fst).Nodup) (h : Fills shape members parts) :
    ReadsBack (fields shape) (Json.object members).compact (parts.map some) := by
  have hlength : (shape.map Prod.fst).length = parts.length := by
    rw [List.length_map]
    exact h.length_eq
  have hgather := gather_of_filter hlength fun m hm => filter_zip_of_nodup hnames hm
  have hrecord := record_intercalate (h.readsMember fun f hf => find?_of_nodup hnames hf)
  rw [compact_object]
  refine ⟨⟨'{', _, rfl, rfl, by decide⟩, fun rest _ => ?_⟩
  rw [List.cons_append, List.append_assoc, fields, skipBlanks_cons rfl]
  simp only [List.singleton_append, hrecord, List.filterMap_map, Function.comp_def, id_eq,
    List.filterMap_some, hgather]

theorem ofText?_toCompact {read : Read α} {v : Json} {x : α} (h : ReadsBack read v.compact x) :
    ofText? read v.toCompact = some x := by
  have hreads := h.reads [] mayEnd_nil
  rw [List.append_nil] at hreads
  rw [ofText?, all?, toCompact, String.toList_ofList, hreads]
  rfl

/-! ## What is read from any text -/

/-- **Whatever text a reader takes, its value has this property.** -/
def Yields (read : Read α) (P : α → Prop) : Prop := ∀ ⦃s v rest⦄, read s = .ok (v, rest) → P v

theorem Yields.map {read : Read α} {P : α → Prop} {Q : β → Prop} (h : Yields read P) {f : α → β}
    (hf : ∀ v, P v → Q (f v)) : Yields (fun s => (read s).map fun (v, rest) => (f v, rest)) Q := by
  intro s w rest hw
  cases hread : read s with
  | error e => simp [hread, Except.map] at hw
  | ok r =>
    obtain ⟨v, rest'⟩ := r
    simp only [hread, Except.map, Except.ok.injEq, Prod.mk.injEq] at hw
    exact hw.1 ▸ hf v (h hread)

/-- Digits are added up to a number below `2 ^ 64`. -/
theorem accumulate_lt (sum : Nat) (hsum : sum < UInt64.size) (ds : List Char) :
    (accumulate sum ds).1 < UInt64.size := by
  induction ds generalizing sum with
  | nil => exact hsum
  | cons d ds ih =>
    rw [accumulate]
    split
    · rename_i hfits
      exact ih _ hfits
    · exact hsum

theorem real_ne_int {negative : Bool} {sum : Nat} {power : Int} {s rest : List Char} {n : Int} :
    real negative sum power s ≠ .ok (.int n, rest) := by
  rw [real]
  split <;> simp [atRest]

theorem exponent_ne_int {negative : Bool} {sum : Nat} {power : Int} {s rest : List Char} {n : Int} :
    exponent negative sum power s ≠ .ok (.int n, rest) := by
  intro h
  unfold exponent at h
  split at h
  rename_i down t hsign
  split at h
  · simp [atRest] at h
  · split at h
    · simp at h
    · dsimp only at h
      split at h
      · split at h <;> simp [atRest] at h
      · exact real_ne_int h

theorem afterDigits_ne_int {negative : Bool} {sum : Nat} {power : Int} {s rest : List Char}
    {n : Int} : afterDigits negative sum power s ≠ .ok (.int n, rest) := by
  intro h
  unfold afterDigits at h
  split at h
  · split at h
    · exact exponent_ne_int h
    · exact real_ne_int h
  · exact real_ne_int h

theorem fraction_ne_int {negative : Bool} {sum : Nat} {power : Int} {s rest : List Char} {n : Int} :
    fraction negative sum power s ≠ .ok (.int n, rest) := by
  intro h
  simp only [fraction] at h
  split at h
  · split at h <;> simp [atRest, atNext] at h
  · exact afterDigits_ne_int h

theorem integer_lt {negative : Bool} {sum n : Nat} (hsum : sum < UInt64.size)
    (h : integer negative sum = .int (.ofNat n)) : n < UInt64.size := by
  unfold integer at h
  split at h
  · split at h
    · rename_i hne
      simp only [Number.int.injEq, Int.ofNat_eq_natCast] at h
      omega
    · cases h
  · simp only [Number.int.injEq, Int.ofNat_eq_natCast] at h
    omega

theorem unsigned_lt {negative : Bool} {s rest : List Char} {n : Nat}
    (h : unsigned negative s = .ok (.int (.ofNat n), rest)) : n < UInt64.size := by
  cases s with
  | nil => simp [unsigned, atRest] at h
  | cons c s =>
    rw [unsigned] at h
    generalize (if c = '0' then [c] else (c :: s).takeWhile Char.isDigit) = digits at h
    have hlt := accumulate_lt 0 (by decide) digits
    dsimp only at h
    split at h
    · simp at h
    split at h
    · simp [atNext] at h
    split at h
    · exact absurd h fraction_ne_int
    split at h
    · simp only [Except.ok.injEq, Prod.mk.injEq] at h
      exact integer_lt hlt h.1
    · exact absurd h afterDigits_ne_int

/-- **Only integers below `2 ^ 64` are read as natural numbers.** -/
theorem yields_natural : Yields natural (· < UInt64.size) := by
  intro s n rest h
  rw [natural] at h
  split at h
  · split at h
    · rename_i c s' _ _
      split at h
      · rename_i m rest' hnumber
        simp only [Except.ok.injEq, Prod.mk.injEq] at h
        rw [Reader.number.eq_def] at hnumber
        rw [← h.1]
        split at hnumber <;> exact unsigned_lt hnumber
      · simp [mismatch, atNext] at h
      · cases h
    · simp [mismatch, atNext] at h
  · simp [mismatch, atNext] at h

theorem word_eq_ok {v w : α} {letters s rest : List Char} (h : word v letters s = .ok (w, rest)) :
    w = v := by
  induction letters generalizing s with
  | nil =>
    simp only [word, Except.ok.injEq, Prod.mk.injEq] at h
    exact h.1.symm
  | cons c letters ih =>
    cases s with
    | nil => simp [word, atRest] at h
    | cons d s =>
      rw [word] at h
      split at h
      · exact ih h
      · cases h

theorem Yields.optional {read : Read α} {P : α → Prop} (h : Yields read P) :
    Yields (optional read) fun o => ∀ v ∈ o, P v := by
  intro s o rest ho
  rw [Shape.optional] at ho
  split at ho
  · rw [word_eq_ok ho]
    exact fun v hv => nomatch hv
  · exact h.map (Q := fun o => ∀ v ∈ o, P v) (f := some)
      (fun v hv w hw => Option.some.inj hw ▸ hv) ho

theorem nextItem_eq_ok {item : Read α} {fuel : Nat} {s rest : List Char} {vs : List α}
    (h : (do
      let (v, s) ← item s
      let (vs, s) ← items item fuel false s
      .ok (v :: vs, s) : Except Stop (List α × List Char)) = .ok (vs, rest)) :
    ∃ v others s' s'', vs = v :: others ∧ item s' = .ok (v, s'') ∧
      items item fuel false s'' = .ok (others, rest) := by
  simp only [bind, Except.bind] at h
  split at h
  · cases h
  rename_i r hitem
  split at h
  · cases h
  rename_i r' hothers
  simp only [Except.ok.injEq, Prod.mk.injEq] at h
  obtain ⟨rfl, rfl⟩ := h
  exact ⟨r.1, r'.1, s, r.2, rfl, hitem, hothers⟩

/-- A list that is read has no elements, or a first one and others after it. -/
theorem items_eq_ok {item : Read α} {fuel : Nat} {first : Bool} {s rest : List Char} {vs : List α}
    (h : items item (fuel + 1) first s = .ok (vs, rest)) :
    vs = [] ∨ ∃ v others s' s'', vs = v :: others ∧ item s' = .ok (v, s'') ∧
      items item fuel false s'' = .ok (others, rest) := by
  rw [items] at h
  dsimp only at h
  split at h
  · simp [atNext] at h
  · simp only [Except.ok.injEq, Prod.mk.injEq] at h
    exact .inl h.1.symm
  · split at h
    · exact .inr (nextItem_eq_ok h)
    split at h
    · simp [atNext] at h
    split at h
    · simp [atNext] at h
    · simp [atNext] at h
    · exact .inr (nextItem_eq_ok h)

theorem Yields.items {item : Read α} {P : α → Prop} (h : Yields item P) (fuel : Nat)
    (first : Bool) : Yields (items item fuel first) fun vs => ∀ v ∈ vs, P v := by
  induction fuel generalizing first with
  | zero => exact fun s vs rest hvs => by simp [Reader.items, atRest] at hvs
  | succ fuel ih =>
    intro s vs rest hvs
    obtain rfl | ⟨v, others, s', s'', rfl, hitem, hothers⟩ := items_eq_ok hvs
    · exact fun v hv => absurd hv List.not_mem_nil
    · exact List.forall_mem_cons.mpr ⟨h hitem, ih false hothers⟩

theorem Yields.many {read : Read α} {P : α → Prop} (h : Yields read P) :
    Yields (many read) fun vs => ∀ v ∈ vs, P v := by
  intro s vs rest hvs
  rw [Shape.many] at hvs
  split at hvs
  · exact h.items _ true hvs
  · simp [mismatch, atNext] at hvs

theorem nextEntry_eq_ok {entry : String → Read α} {fuel : Nat} {s rest : List Char} {vs : List α}
    (h : (do
      let (key, s) ← Reader.string s
      match skipBlanks s with
      | ':' :: s =>
        let (v, s) ← entry key s
        let (vs, s) ← entries entry fuel false s
        .ok (v :: vs, s)
      | [] => atNext .endInObject []
      | s => atNext .expectedColon s : Except Stop (List α × List Char)) = .ok (vs, rest)) :
    ∃ key v others s' s'', vs = v :: others ∧ entry key s' = .ok (v, s'') ∧
      entries entry fuel false s'' = .ok (others, rest) := by
  simp only [bind, Except.bind] at h
  split at h
  · cases h
  rename_i r hkey
  split at h
  · rename_i s' hcolon
    split at h
    · cases h
    rename_i r' hentry
    split at h
    · cases h
    rename_i r'' hothers
    simp only [Except.ok.injEq, Prod.mk.injEq] at h
    obtain ⟨rfl, rfl⟩ := h
    exact ⟨r.1, r'.1, r''.1, s', r'.2, rfl, hentry, hothers⟩
  · simp [atNext] at h
  · simp [atNext] at h

/-- A record that is read has no members, or a first one and others after it. -/
theorem entries_eq_ok {entry : String → Read α} {fuel : Nat} {first : Bool} {s rest : List Char}
    {vs : List α} (h : entries entry (fuel + 1) first s = .ok (vs, rest)) :
    vs = [] ∨ ∃ key v others s' s'', vs = v :: others ∧ entry key s' = .ok (v, s'') ∧
      entries entry fuel false s'' = .ok (others, rest) := by
  rw [entries] at h
  dsimp only at h
  split at h
  · simp [atNext] at h
  · simp only [Except.ok.injEq, Prod.mk.injEq] at h
    exact .inl h.1.symm
  · split at h
    · split at h
      · exact .inr (nextEntry_eq_ok h)
      · simp [atNext] at h
    split at h
    · simp [atNext] at h
    split at h
    · simp [atNext] at h
    · exact .inr (nextEntry_eq_ok h)
    · simp [atNext] at h
    · simp [atNext] at h

theorem yields_entries {entry : String → Read α} {P : α → Prop} (h : ∀ key, Yields (entry key) P)
    (fuel : Nat) (first : Bool) : Yields (entries entry fuel first) fun vs => ∀ v ∈ vs, P v := by
  induction fuel generalizing first with
  | zero => exact fun s vs rest hvs => by simp [Reader.entries, atRest] at hvs
  | succ fuel ih =>
    intro s vs rest hvs
    obtain rfl | ⟨key, v, others, s', s'', rfl, hentry, hothers⟩ := entries_eq_ok hvs
    · exact fun v hv => absurd hv List.not_mem_nil
    · exact List.forall_mem_cons.mpr ⟨h key hentry, ih false hothers⟩

/-! ### Records -/

variable {shape : List (FieldReader α)} {P : α → Prop}

theorem yields_member (h : ∀ f ∈ shape, Yields f.2 P) (key : String) :
    Yields (member shape key) fun m => ∀ e ∈ m, P e.2 := by
  intro s m rest hm
  rw [member] at hm
  split at hm
  · rename_i name read hfind
    exact (h _ (List.mem_of_find?_eq_some hfind)).map
      (Q := fun m : Option (String × α) => ∀ e ∈ m, P e.2)
      (f := fun v => some (key, v)) (fun v hv e he => Option.some.inj he ▸ hv) hm
  · have hnone : m = none := by
      simp only [Except.map] at hm
      split at hm
      · cases hm
      · simp only [Except.ok.injEq, Prod.mk.injEq] at hm
        exact hm.1.symm
    rw [hnone]
    exact fun e he => nomatch he

/-- Only members of a record are gathered. -/
theorem gather_forall {members : List (String × α)} (h : ∀ m ∈ members, P m.2) {keys : List String}
    {vs : List (Option α)} (hgather : gather members keys = some vs) : ∀ o ∈ vs, ∀ v ∈ o, P v := by
  induction keys generalizing vs with
  | nil =>
    obtain rfl := Option.some.inj hgather
    exact fun o ho => absurd ho List.not_mem_nil
  | cons key keys ih =>
    rw [gather] at hgather
    split at hgather
    · obtain ⟨others, hothers, rfl⟩ := Option.map_eq_some_iff.mp hgather
      exact List.forall_mem_cons.mpr ⟨fun v hv => (nomatch hv), ih hothers⟩
    · rename_i name v hone
      obtain ⟨others, hothers, rfl⟩ := Option.map_eq_some_iff.mp hgather
      have hmem : (name, v) ∈ members.filter (·.1 = key) := by
        rw [hone]
        exact List.mem_cons_self
      have hv : P v := h _ (List.mem_of_mem_filter hmem)
      exact List.forall_mem_cons.mpr ⟨fun w hw => Option.some.inj hw ▸ hv, ih hothers⟩
    · cases hgather

/-- A field and those after it in an array. -/
theorem yields_nextInOrder {read : Read α} (hread : Yields read P)
    (hothers : Yields (inOrder false shape) fun vs => ∀ o ∈ vs, ∀ v ∈ o, P v) :
    Yields (fun s => match read s with
      | .ok (v, rest) => (inOrder false shape rest).map fun (vs, rest) => (some v :: vs, rest)
      | .error stop => .error stop) fun vs => ∀ o ∈ vs, ∀ v ∈ o, P v := by
  intro s vs rest hvs
  dsimp only at hvs
  split at hvs
  · rename_i v rest' hv
    exact hothers.map (Q := fun vs : List (Option α) => ∀ o ∈ vs, ∀ v ∈ o, P v) (f := (some v :: ·))
      (fun others hall =>
        List.forall_mem_cons.mpr ⟨fun w hw => Option.some.inj hw ▸ hread hv, hall⟩) hvs
  · cases hvs

theorem yields_inOrder (h : ∀ f ∈ shape, Yields f.2 P) (first : Bool) :
    Yields (inOrder first shape) fun vs => ∀ o ∈ vs, ∀ v ∈ o, P v := by
  induction shape generalizing first with
  | nil =>
    intro s vs rest hvs
    rw [inOrder] at hvs
    split at hvs
    · simp only [Except.ok.injEq, Prod.mk.injEq] at hvs
      rw [← hvs.1]
      exact fun o ho => absurd ho List.not_mem_nil
    · simp [mismatch, atNext] at hvs
  | cons f shape ih =>
    obtain ⟨key, read⟩ := f
    obtain ⟨hread, hshape⟩ := List.forall_mem_cons.mp h
    intro s vs rest hvs
    have hnext := yields_nextInOrder hread (ih hshape false)
    rw [inOrder] at hvs
    dsimp only at hvs
    split at hvs
    · exact hnext hvs
    · split at hvs
      · exact hnext hvs
      · simp [mismatch, atNext] at hvs

/-- **The values of a record keep what the readers of its fields ensure**, whether it is an object
or an array, in whatever order its members stand. -/
theorem yields_fields (h : ∀ f ∈ shape, Yields f.2 P) :
    Yields (fields shape) fun vs => ∀ o ∈ vs, ∀ v ∈ o, P v := by
  intro s vs rest hvs
  rw [fields] at hvs
  split at hvs
  · split at hvs
    · rename_i members rest' hrecord
      split at hvs
      · rename_i gathered hgather
        simp only [Except.ok.injEq, Prod.mk.injEq] at hvs
        have hmembers := yields_entries (yields_member h) _ true hrecord
        rw [← hvs.1]
        refine gather_forall (fun m hm => ?_) hgather
        obtain ⟨o, ho, hom⟩ := List.mem_filterMap.mp hm
        exact hmembers o ho m hom
      · simp [mismatch, atNext] at hvs
    · cases hvs
  · exact yields_inOrder h true hvs
  · simp [mismatch, atNext] at hvs

theorem Yields.ofText? {read : Read α} (h : Yields read P) {text : String} {v : α}
    (hv : Shape.ofText? read text = some v) : P v := by
  rw [Shape.ofText?, all?] at hv
  split at hv
  · rename_i w hw
    obtain rfl := Option.some.inj hv
    cases hread : read text.toList with
    | error stop => simp [hread, Except.bind] at hw
    | ok r =>
      obtain ⟨u, rest⟩ := r
      rw [hread, Except.bind, finish] at hw
      split at hw
      · obtain rfl := Except.ok.inj hw
        exact h hread
      · cases hw
  · cases hv

end DocSchema.Json.Shape
