import DocSchema.Proofs.Notation.Outline

/-!
# The trees that schemas can have

The types of validators admit more trees than the notation can write: arrays of
arrays, arrays of built-in leaves, names with a colon in them, the same name
twice in one object, kinds that are not registered.  `IsExpressible` says which
trees the notation can write with given kinds, and whatever lines outline is one
of them (`isExpressible_of_outlines`): names and type names are as lines spell
them, and entering fields by name leaves every name once.
-/
namespace DocSchema

/-! ## Fields entered by name -/

namespace Keyed
variable {α : Type}

theorem mem_set {entries : Keyed α} {key : String} {value : α} {e : String × α}
    (h : e ∈ entries.set key value) : e = (key, value) ∨ e ∈ entries := by
  induction entries with
  | nil => exact .inl (List.mem_singleton.mp h)
  | cons first rest ih =>
    obtain ⟨k, v⟩ := first
    rw [set] at h
    split at h
    · rcases List.mem_cons.mp h with rfl | h
      · exact .inl rfl
      · exact .inr (List.mem_cons_of_mem _ h)
    · rcases List.mem_cons.mp h with rfl | h
      · exact .inr List.mem_cons_self
      · exact (ih h).imp_right (List.mem_cons_of_mem _)

theorem nodup_keys_set {entries : Keyed α} (h : entries.keys.Nodup) (key : String) (value : α) :
    (entries.set key value).keys.Nodup := by
  rw [keys_set]
  split
  · exact h
  · rename_i hnew
    refine List.nodup_append.mpr ⟨h, by simp, ?_⟩
    rintro a ha b hb rfl
    exact hnew (List.mem_singleton.mp hb ▸ ha)

/-- A new name goes to the end. -/
theorem set_of_not_mem_keys {entries : Keyed α} {key : String} (h : key ∉ entries.keys)
    (value : α) : entries.set key value = entries ++ [(key, value)] := by
  induction entries with
  | nil => rfl
  | cons first rest ih =>
    obtain ⟨k, v⟩ := first
    rw [keys_cons, List.mem_cons, not_or] at h
    rw [set, if_neg (Ne.symm h.1), ih h.2]
    rfl

end Keyed

namespace ObjectValidator

theorem mem_fields_setAll {o : ObjectValidator} {fields : List (String × Validator)}
    {f : String × Validator} (h : f ∈ (o.setAll fields).fields) : f ∈ fields ∨ f ∈ o.fields := by
  induction fields generalizing o with
  | nil => exact .inr h
  | cons first fields ih =>
    rcases ih h with h | h
    · exact .inl (List.mem_cons_of_mem _ h)
    · rcases Keyed.mem_set h with rfl | h
      · exact .inl List.mem_cons_self
      · exact .inr h

theorem nodup_keys_setAll {o : ObjectValidator} (h : o.keys.Nodup)
    (fields : List (String × Validator)) : (o.setAll fields).keys.Nodup := by
  induction fields generalizing o with
  | nil => exact h
  | cons f fields ih => exact ih (Keyed.nodup_keys_set h f.1 f.2)

/-- Fields of different names are entered as they stand. -/
theorem fields_setAll_of_nodup {o : ObjectValidator} {fields : List (String × Validator)}
    (h : (o.keys ++ Keyed.keys fields).Nodup) : (o.setAll fields).fields = o.fields ++ fields := by
  induction fields generalizing o with
  | nil => exact (List.append_nil _).symm
  | cons f fields ih =>
    have hnew : f.1 ∉ o.keys := by
      intro hmem
      exact (List.nodup_append.mp h).2.2 _ hmem _ List.mem_cons_self rfl
    have hset : (o.set f.1 f.2).fields = o.fields ++ [f] := Keyed.set_of_not_mem_keys hnew f.2
    have hnodup : ((o.set f.1 f.2).keys ++ Keyed.keys fields).Nodup := by
      rw [keys, hset, Keyed.keys, List.map_append, List.append_assoc]
      exact h
    rw [setAll, List.foldl_cons, ← setAll, ih hnodup, hset, List.append_assoc]
    rfl

end ObjectValidator

namespace Notation

/-! ## Expressible trees -/

/-- The hooks of objects: none for a plain object, or that of a registered kind. -/
inductive IsKindHook (r : Registry) : Option Hook → Prop where
  | plain : IsKindHook r none
  | kind {name : String} {check : Check} : r.get? name = some (.object check) →
      IsKindHook r (some ⟨name, check⟩)

/-- The names of the fields of an object: each as a line can give it, and none
twice. -/
structure HasFieldNames (fields : List (String × Validator)) : Prop where
  valid : ∀ f ∈ fields, IsFieldName f.1
  nodup : (Keyed.keys fields).Nodup

/-- **The trees below a field** that the notation can write with the kinds of a
registry. -/
inductive Expressible (r : Registry) : Validator → Prop where
  | string : Expressible r (.leaf .string)
  | boolean : Expressible r (.leaf .boolean)
  | int : Expressible r (.leaf .int)
  | pattern {p : Pattern} : (∀ c ∈ p.text.toList, isBlank c = false) →
      Expressible r (.leaf (.pattern p))
  | element {name : String} {check : Check} : r.get? name = some (.element check) →
      Expressible r (.leaf (.custom name check))
  | elements {name : String} {check : Check} : r.get? name = some (.element check) →
      Expressible r (.array (.leaf (.custom name check)))
  | object {hook : Option Hook} {fields : List (String × Validator)} : IsKindHook r hook →
      HasFieldNames fields → (∀ f ∈ fields, Expressible r f.2) →
      Expressible r (.object hook fields)
  | objects {hook : Option Hook} {fields : List (String × Validator)} : IsKindHook r hook →
      HasFieldNames fields → (∀ f ∈ fields, Expressible r f.2) →
      Expressible r (.array (.object hook fields))

/-- **The root objects** that the notation can write: plain ones. -/
structure IsExpressible (r : Registry) (o : ObjectValidator) : Prop where
  plain : o.hook = none
  names : HasFieldNames o.fields
  fields : ∀ f ∈ o.fields, Expressible r f.2

/-! ## What lines outline is expressible -/

/-- A type name opens a fresh object of a kind. -/
theorem Denotes.fresh {r : Registry} {token : String} {o : ObjectValidator} {isArray : Bool}
    (h : Denotes r token (.opens o isArray)) : IsKindHook r o.hook ∧ o.fields = [] := by
  cases h with
  | object | objects => exact ⟨.plain, rfl⟩
  | kind hkind | kinds hkind => exact ⟨.kind hkind, rfl⟩

theorem hasFieldNames_setAll {o : ObjectValidator} (h : o.fields = [])
    {fields : List (String × Validator)} (hvalid : ∀ f ∈ fields, IsFieldName f.1) :
    HasFieldNames (o.setAll fields).fields := by
  constructor
  · intro f hf
    rcases ObjectValidator.mem_fields_setAll hf with hf | hf
    · exact hvalid f hf
    · rw [h] at hf
      cases hf
  · refine ObjectValidator.nodup_keys_setAll ?_ fields
    rw [ObjectValidator.keys, h]
    exact List.nodup_nil

/-- The validator of a line is expressible if those of the lines below it are. -/
theorem expressible_validator {r : Registry} {token : String} {d : Declared}
    {fields : List (String × Validator)} (htoken : IsToken token) (h : Denotes r token d)
    (hfields : ∀ f ∈ fields, IsFieldName f.1 ∧ Expressible r f.2) :
    Expressible r (d.validator fields) := by
  cases d with
  | leaf v =>
    cases h with
    | string => exact .string
    | boolean => exact .boolean
    | int => exact .int
    | pattern hp =>
      refine .pattern fun c hc => htoken.chars c ?_
      rw [Pattern.text_of_compile? hp] at hc
      rw [String.toList_append]
      exact List.mem_append_right _ hc
    | element hget => exact .element hget
    | elements hget => exact .elements hget
  | opens o isArray =>
    obtain ⟨hhook, hfresh⟩ := h.fresh
    rw [← ObjectValidator.hook_setAll o fields] at hhook
    have hnames := hasFieldNames_setAll hfresh fun f hf => (hfields f hf).1
    have htrees : ∀ f ∈ (o.setAll fields).fields, Expressible r f.2 := by
      intro f hf
      rcases ObjectValidator.mem_fields_setAll hf with hf | hf
      · exact (hfields f hf).2
      · rw [hfresh] at hf
        cases hf
    cases isArray with
    | false => exact .object hhook hnames htrees
    | true => exact .objects hhook hnames htrees

/-- What lines declare at a depth has names of lines and expressible trees. -/
theorem expressible_declaredAt {r : Registry} (depth : Nat) {es : List Entry}
    (h : ∀ e ∈ es, IsFieldName e.name ∧ ∃ token, IsToken token ∧ Denotes r token e.declared) :
    ∀ f ∈ declaredAt depth es, IsFieldName f.1 ∧ Expressible r f.2 := by
  induction depth, es using declaredAt.induct with
  | case1 depth => simp [declaredAt_nil]
  | case2 e rest ihbody ihrest =>
    have hrest : ∀ e ∈ rest,
        IsFieldName e.name ∧ ∃ token, IsToken token ∧ Denotes r token e.declared :=
      fun e he => h e (List.mem_cons_of_mem _ he)
    rw [declaredAt_cons rest rfl]
    intro f hf
    rcases List.mem_cons.mp hf with rfl | hf
    · obtain ⟨hname, token, htoken, hdenotes⟩ := h e List.mem_cons_self
      have hbody := ihbody fun e he => hrest e ((List.takeWhile_sublist _).subset he)
      exact ⟨hname, expressible_validator htoken hdenotes hbody⟩
    · exact ihrest hrest f hf
  | case3 depth e rest hdepth ih =>
    rw [declaredAt, if_neg hdepth]
    exact ih fun e he => h e (List.mem_cons_of_mem _ he)

theorem isExpressible_of_outlines {r : Registry} {raw : List (Option (List Char))}
    {o : ObjectValidator} (h : Outlines r raw o) : IsExpressible r o := by
  obtain ⟨es, hes, -, rfl⟩ := h
  have hlines : ∀ e ∈ es,
      IsFieldName e.name ∧ ∃ token, IsToken token ∧ Denotes r token e.declared := by
    induction hes with
    | nil => exact fun _ h => absurd h List.not_mem_nil
    | cons hstated _ ih =>
      intro e he
      rcases List.mem_cons.mp he with rfl | he
      · obtain ⟨text, token, -, ⟨_, _, _, _, _, _, hname, htoken⟩, hdenotes⟩ := hstated
        exact ⟨hname, token, htoken, hdenotes⟩
      · exact ih e he
  have hfields := expressible_declaredAt 0 hlines
  refine ⟨ObjectValidator.hook_setAll .., hasFieldNames_setAll rfl fun f hf => (hfields f hf).1, ?_⟩
  intro f hf
  rcases ObjectValidator.mem_fields_setAll hf with hf | hf
  · exact (hfields f hf).2
  · cases hf

end Notation
end DocSchema
