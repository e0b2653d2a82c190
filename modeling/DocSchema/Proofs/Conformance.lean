import DocSchema.Validator.Run
import Mathlib.Logic.Relation

/-!
# Documents that conform

Validation asks one thing after the other, stops at the first that fails and
hands a record along.  With validators that only look at the value in front of
them (`Validator.Plain`) none of this can be told from the verdict: a document is
accepted exactly if it conforms (`Conforms`), where every field of an object and
every element of an array counts alike, whatever their order.

The argument follows the steps of which validation is made.  A step decides a
proposition if it passes exactly when that holds and leaves the record as it was
(`Step.Decides`).  Steps in a row decide the conjunction, and a conjunction has
no order.  So fields may change places anywhere in the tree without changing the
verdict, and further fields can only take documents away.
-/
namespace DocSchema

/-! ## Plain validators and what they ask for -/

/-- Leaves that look at the value alone: the built-in ones, and kinds that stand
for a pattern. -/
inductive Leaf.Plain : Leaf → Prop where
  | string : Plain .string
  | boolean : Plain .boolean
  | int : Plain .int
  | pattern (p : Pattern) : Plain (.pattern p)
  | kind (name : String) (p : Pattern) : Plain (.custom name (Check.matching p))

/-- Trees of plain leaves, without hooks. -/
inductive Validator.Plain : Validator → Prop where
  | leaf {l : Leaf} : l.Plain → Plain (.leaf l)
  | array {e : Validator} : Plain e → Plain (.array e)
  | object {fields : List (String × Validator)} : (∀ f ∈ fields, Plain f.2) →
      Plain (.object none fields)

/-- The values that a leaf asks for; a kind of its own asks for those that its check
accepts whatever is recorded. -/
def Leaf.Admits : Leaf → Json → Prop
  | .string, d => ∃ text, d = .string text
  | .boolean, d => ∃ b, d = .bool b
  | .int, d => ∃ i, d = .number (.int i)
  | .pattern p, d => ∃ text, d = .string text ∧ p.occursIn text = true
  | .custom _ check, d => ∀ c, (check d c).1 = true

/-- **A value conforms to a validator.**  An object validator asks for a member
under the name of each field, and the member conforms to the validator of the
field; this says nothing about the kind of the value if there are no fields. -/
inductive Conforms : Validator → Json → Prop where
  | leaf {l : Leaf} {d : Json} : l.Admits d → Conforms (.leaf l) d
  | array {e : Validator} {elements : List Json} : (∀ value ∈ elements, Conforms e value) →
      Conforms (.array e) (.array elements)
  | object {fields : List (String × Validator)} {d : Json} :
      (∀ f ∈ fields, d.has f.1 = true) →
      (∀ f ∈ fields, ∀ member, d.get? f.1 = some member → Conforms f.2 member) →
      Conforms (.object none fields) d

theorem conforms_array_iff {e : Validator} {d : Json} :
    Conforms (.array e) d ↔ d.is .array = true ∧ ∀ value ∈ d.elements, Conforms e value := by
  constructor
  · rintro (_ | helements | _)
    exact ⟨rfl, helements⟩
  · rintro ⟨harray, helements⟩
    obtain ⟨elements, rfl⟩ := (Json.is_iff d .array).mp harray
    exact .array helements

theorem conforms_object_iff {fields : List (String × Validator)} {d : Json} :
    Conforms (.object none fields) d ↔
      ∀ f ∈ fields, ∃ member, d.get? f.1 = some member ∧ Conforms f.2 member := by
  constructor
  · rintro (_ | _ | ⟨hhas, hmembers⟩) f hf
    obtain ⟨member, hmember⟩ := Option.isSome_iff_exists.mp (hhas f hf)
    exact ⟨member, hmember, hmembers f hf member hmember⟩
  · intro h
    refine .object (fun f hf => ?_) fun f hf member hmember => ?_
    · obtain ⟨member, hmember, -⟩ := h f hf
      exact Option.isSome_iff_exists.mpr ⟨member, hmember⟩
    · obtain ⟨member', hmember', hconforms⟩ := h f hf
      rw [hmember, Option.some.injEq] at hmember'
      exact hmember' ▸ hconforms

/-! ## Steps that decide -/

namespace Step

/-- **A step decides a proposition**: it passes if that holds and fails if it does
not, and it leaves the record as it was either way. -/
def Decides (s : Step) (P : Prop) : Prop :=
  ∀ c, (P ∧ s c = (.ok (), c)) ∨ (¬ P ∧ ∃ f, s c = (.error f, c))

variable {s t : Step} {P Q : Prop}

theorem Decides.passes_iff (h : s.Decides P) (c : Context) : (s c).1 = .ok () ↔ P := by
  rcases h c with ⟨hP, hrun⟩ | ⟨hP, f, hrun⟩ <;> simp [hrun, hP]

theorem Decides.keeps (h : s.Decides P) (c : Context) : (s c).2 = c := by
  rcases h c with ⟨-, hrun⟩ | ⟨-, f, hrun⟩ <;> rw [hrun]

theorem Decides.congr (h : s.Decides P) (hPQ : P ↔ Q) : s.Decides Q := by
  intro c
  rw [← hPQ]
  exact h c

theorem decides_pass : pass.Decides True := fun _ => .inl ⟨trivial, rfl⟩

theorem decides_fail (f : Failure) : (fail f).Decides False := fun _ => .inr ⟨id, f, rfl⟩

/-- Steps in a row decide the conjunction. -/
theorem Decides.andThen (hs : s.Decides P) (ht : t.Decides Q) :
    (Step.andThen s t).Decides (P ∧ Q) := by
  intro c
  rcases hs c with ⟨hP, hpass⟩ | ⟨hP, f, hfail⟩
  · rcases ht c with ⟨hQ, hpass'⟩ | ⟨hQ, f, hfail⟩
    · exact .inl ⟨⟨hP, hQ⟩, by simp only [Step.andThen, hpass, hpass']⟩
    · exact .inr ⟨fun h => hQ h.2, f, by simp only [Step.andThen, hpass, hfail]⟩
  · -- The second step is not asked when the first one fails.
    exact .inr ⟨fun h => hP h.1, f, by simp only [Step.andThen, hfail]⟩

theorem Decides.within (h : s.Decides P) (e : TraceElement) : (Step.within e s).Decides P := by
  intro c
  rcases h c with ⟨hP, hpass⟩ | ⟨hP, f, hfail⟩
  · exact .inl ⟨hP, by simp only [Step.within, hpass]⟩
  · exact .inr ⟨hP, f.within e, by simp only [Step.within, hfail]⟩

theorem decides_ofCheck (p : Json → Bool) (node : Json) (f : Failure) :
    (ofCheck (Check.ofPredicate p) node f).Decides (p node = true) := by
  intro c
  cases h : p node with
  | true => exact .inl ⟨rfl, by simp only [ofCheck, Check.ofPredicate, h]⟩
  | false => exact .inr ⟨Bool.false_ne_true, f, by simp only [ofCheck, Check.ofPredicate, h]⟩

/-- One step for each value decides that all of them are as they should be. -/
theorem decides_each {step : Json → Nat → Step} {P : Json → Prop}
    (h : ∀ value i, (step value i).Decides (P value)) (first : Nat) (values : List Json) :
    (each step first values).Decides (∀ value ∈ values, P value) := by
  induction values generalizing first with
  | nil => exact decides_pass.congr (by simp)
  | cons value values ih => exact ((h value first).andThen (ih (first + 1))).congr (by simp)

end Step

/-! ## What plain validators decide -/

theorem Leaf.Plain.decides {l : Leaf} (h : l.Plain) (d : Json) (f : Failure) :
    (Step.ofCheck l.check d f).Decides (l.Admits d) := by
  cases h with
  | string => exact (Step.decides_ofCheck _ d f).congr (Json.is_iff d .string)
  | boolean => exact (Step.decides_ofCheck _ d f).congr (Json.is_iff d .boolean)
  | int => exact (Step.decides_ofCheck _ d f).congr (Json.is_iff d .integer)
  | pattern p =>
    refine (Step.decides_ofCheck _ d f).congr ?_
    cases d <;> simp [Json.text?, Leaf.Admits]
  | kind name p =>
    refine (Step.decides_ofCheck _ d f).congr ?_
    exact ⟨fun hoccurs _ => hoccurs, fun hadmits => hadmits Context.empty⟩

theorem conforms_leaf_iff {l : Leaf} {d : Json} : Conforms (.leaf l) d ↔ l.Admits d :=
  ⟨fun | .leaf hadmits => hadmits, .leaf⟩

/-- Fields decide that each of them has a member that conforms. -/
theorem decides_validateFields {fields : List (String × Validator)}
    (h : ∀ f ∈ fields, ∀ d pos, (f.2.validate d pos).Decides (Conforms f.2 d)) (d : Json) :
    (validateFields fields d).Decides
      (∀ f ∈ fields, ∃ member, d.get? f.1 = some member ∧ Conforms f.2 member) := by
  induction fields with
  | nil =>
    rw [validateFields]
    exact Step.decides_pass.congr (by simp)
  | cons field rest ih =>
    obtain ⟨name, v⟩ := field
    have hrest := ih fun f hf => h f (List.mem_cons_of_mem _ hf)
    rw [validateFields]
    cases hmember : d.get? name with
    | none => exact ((Step.decides_fail _).andThen hrest).congr (by simp [hmember])
    | some member =>
      have hfirst := h (name, v) List.mem_cons_self member ⟨name, none⟩
      exact (hfirst.andThen hrest).congr (by simp [hmember])

/-- **A plain validator decides whether a value conforms.** -/
theorem Validator.Plain.decides {v : Validator} (hv : v.Plain) (d : Json) (pos : Position) :
    (v.validate d pos).Decides (Conforms v d) := by
  induction hv generalizing d pos with
  | leaf hl =>
    rw [Validator.validate]
    exact (hl.decides d _).congr conforms_leaf_iff.symm
  | array _ ih =>
    rw [Validator.validate]
    split
    · rename_i harray
      refine (Step.decides_each (fun value i => ih value ⟨pos.name, some i⟩) 0 d.elements).congr ?_
      rw [conforms_array_iff]
      exact (and_iff_right harray).symm
    · rename_i harray
      refine (Step.decides_fail _).congr ?_
      rw [conforms_array_iff]
      exact (iff_of_false id fun h => harray h.1)
  | object _ ih =>
    rw [Validator.validate]
    exact ((decides_validateFields ih d).within _).congr conforms_object_iff.symm

/-! ## Fields in other places, and further fields -/

/-- **The fields of one object are changed**, at any place in a tree. -/
inductive ChangesFields (R : List (String × Validator) → List (String × Validator) → Prop) :
    Validator → Validator → Prop where
  | here {hook : Option Hook} {fields fields' : List (String × Validator)} : R fields fields' →
      ChangesFields R (.object hook fields) (.object hook fields')
  | inField {hook : Option Hook} {front rest : List (String × Validator)} {name : String}
      {v v' : Validator} : ChangesFields R v v' →
      ChangesFields R (.object hook (front ++ (name, v) :: rest))
        (.object hook (front ++ (name, v') :: rest))
  | inArray {e e' : Validator} : ChangesFields R e e' → ChangesFields R (.array e) (.array e')

namespace ChangesFields
variable {R : List (String × Validator) → List (String × Validator) → Prop} {v w : Validator}

theorem symm (hR : ∀ fs gs, R fs gs → R gs fs) (h : ChangesFields R v w) :
    ChangesFields R w v := by
  induction h with
  | here hfields => exact .here (hR _ _ hfields)
  | inField _ ih => exact .inField ih
  | inArray _ ih => exact .inArray ih

/-- A field of an object in which another one is replaced is that one, or stays. -/
theorem mem_of_mem_replaced {front rest : List (String × Validator)}
    {f old : String × Validator} (new : String × Validator) (h : f ∈ front ++ old :: rest) :
    f = old ∨ f ∈ front ++ new :: rest := by
  simp only [List.mem_append, List.mem_cons] at h ⊢
  rcases h with h | h | h
  · exact .inr (.inl h)
  · exact .inl h
  · exact .inr (.inr (.inr h))

/-- What conforms with more fields conforms with fewer. -/
theorem conforms (hR : ∀ fs gs, R fs gs → fs ⊆ gs) (h : ChangesFields R v w) {d : Json}
    (hd : Conforms w d) : Conforms v d := by
  induction h generalizing d with
  | here hfields =>
    cases hd with
    | object hhas hmembers =>
      exact .object (fun f hf => hhas f (hR _ _ hfields hf))
        fun f hf => hmembers f (hR _ _ hfields hf)
  | @inField hook front rest name v v' _ ih =>
    cases hd with
    | object hhas hmembers =>
      have hnew : (name, v') ∈ front ++ (name, v') :: rest :=
        List.mem_append_right _ List.mem_cons_self
      refine .object (fun f hf => ?_) fun f hf member hmember => ?_
      · rcases mem_of_mem_replaced (name, v') hf with rfl | hf
        · exact hhas (name, v') hnew
        · exact hhas f hf
      · rcases mem_of_mem_replaced (name, v') hf with rfl | hf
        · exact ih (hmembers _ hnew member hmember)
        · exact hmembers f hf member hmember
  | inArray _ ih =>
    cases hd with
    | array helements => exact .array fun value hvalue => ih (helements value hvalue)

/-- A tree with fewer fields than a plain one is plain. -/
theorem plain (hR : ∀ fs gs, R fs gs → fs ⊆ gs) (h : ChangesFields R v w) (hw : w.Plain) :
    v.Plain := by
  induction h with
  | here hfields =>
    cases hw with
    | object hall => exact .object fun f hf => hall f (hR _ _ hfields hf)
  | @inField hook front rest name v v' _ ih =>
    cases hw with
    | object hall =>
      refine .object fun f hf => ?_
      rcases mem_of_mem_replaced (name, v') hf with rfl | hf
      · exact ih (hall _ (List.mem_append_right _ List.mem_cons_self))
      · exact hall f hf
  | inArray _ ih =>
    cases hw with
    | array he => exact .array (ih he)

/-- Both carry over to changes one after the other. -/
theorem of_chain (hR : ∀ fs gs, R fs gs → fs ⊆ gs)
    (h : Relation.ReflTransGen (ChangesFields R) v w) :
    (w.Plain → v.Plain) ∧ ∀ d, Conforms w d → Conforms v d := by
  induction h with
  | refl => exact ⟨id, fun _ => id⟩
  | tail _ hlast ih =>
    exact ⟨fun hw => ih.1 (hlast.plain hR hw), fun d hd => ih.2 d (hlast.conforms hR hd)⟩

end ChangesFields

/-- **Validation with a plain validator decides conformance**, whatever is recorded
and wherever the value stands, and records nothing.  So the order of the fields of
any objects in the tree is of no account to the verdict, and with further fields in
any of them no value is accepted that was not accepted before. -/
theorem validation_decides_conformance {v : Validator} (hv : v.Plain) :
    (∀ d pos c, ((v.validate d pos c).1 = .ok () ↔ Conforms v d) ∧ (v.validate d pos c).2 = c) ∧
      (∀ w, Relation.ReflTransGen (ChangesFields List.Perm) v w →
        ∀ d pos c, (w.validate d pos c).1 = .ok () ↔ (v.validate d pos c).1 = .ok ()) ∧
      ∀ w, w.Plain → Relation.ReflTransGen (ChangesFields List.Sublist) v w →
        ∀ d pos c, (w.validate d pos c).1 = .ok () → (v.validate d pos c).1 = .ok () := by
  refine ⟨fun d pos c => ⟨(hv.decides d pos).passes_iff c, (hv.decides d pos).keeps c⟩, ?_, ?_⟩
  · intro w hchain d pos c
    have hsubset : ∀ fs gs : List (String × Validator), fs.Perm gs → fs ⊆ gs :=
      fun _ _ hperm => hperm.subset
    have hback : Relation.ReflTransGen (ChangesFields List.Perm) w v := by
      induction hchain with
      | refl => exact .refl
      | tail _ hlast ih => exact .head (hlast.symm fun _ _ => List.Perm.symm) ih
    have hw : w.Plain := (ChangesFields.of_chain hsubset hback).1 hv
    rw [(hw.decides d pos).passes_iff, (hv.decides d pos).passes_iff]
    exact ⟨(ChangesFields.of_chain hsubset hchain).2 d, (ChangesFields.of_chain hsubset hback).2 d⟩
  · intro w hw hchain d pos c
    rw [(hw.decides d pos).passes_iff, (hv.decides d pos).passes_iff]
    exact (ChangesFields.of_chain (fun _ _ hsub => hsub.subset) hchain).2 d

/-- The fields of items change places, and once there is a further one. -/
theorem conformance_of_reordered_items :
    ∃ p : Pattern, Pattern.compile? "a" = some p ∧
      let size : String × Validator := ("size", .leaf .int)
      let code : String × Validator := ("code", .leaf (.pattern p))
      let note : String × Validator := ("note", .leaf .string)
      let items (fields : List (String × Validator)) : Validator :=
        .object none [("items", .array (.object none fields))]
      let document (member : String) : Json :=
        .object [("items", .array [.object [(member, .string "ba"), ("size", .nat 1)]])]
      (items [size, code]).Plain ∧ (items [size, note, code]).Plain ∧
        Relation.ReflTransGen (ChangesFields List.Perm) (items [size, code]) (items [code, size]) ∧
        Relation.ReflTransGen (ChangesFields List.Sublist) (items [size, code])
          (items [size, note, code]) ∧
        ∀ pos c, (items [size, code]).validate (document "code") pos c = (.ok (), c) ∧
          ((items [code, size]).validate (document "code") pos c).1 = .ok () ∧
          ((items [size, note, code]).validate (document "note") pos c).1 ≠ .ok () := by
  refine ⟨(Pattern.compile? "a").get (by decide), by simp, ?_⟩
  intro size code note items document
  have hplain : (items [size, code]).Plain :=
    .object (by simpa [items] using .array (.object (by
      simpa [size, code] using ⟨.leaf .int, .leaf (.pattern _)⟩)))
  have hplain' : (items [size, note, code]).Plain :=
    .object (by simpa [items] using .array (.object (by
      simpa [size, note, code] using ⟨.leaf .int, .leaf .string, .leaf (.pattern _)⟩)))
  have hswapped : Relation.ReflTransGen (ChangesFields List.Perm) (items [size, code])
      (items [code, size]) := by
    have hfields : List.Perm [size, code] [code, size] := .swap ..
    exact .single (@ChangesFields.inField _ none [] [] _ _ _ (.inArray (.here hfields)))
  have hfurther : Relation.ReflTransGen (ChangesFields List.Sublist) (items [size, code])
      (items [size, note, code]) := by
    have hfields : List.Sublist [size, code] [size, note, code] := .cons_cons _ (.cons _ (.refl _))
    exact .single (@ChangesFields.inField _ none [] [] _ _ _ (.inArray (.here hfields)))
  refine ⟨hplain, hplain', hswapped, hfurther, fun pos c => ?_⟩
  obtain ⟨hdecides, hsame, hfewer⟩ := validation_decides_conformance hplain
  have hitem : Conforms (.object none [size, code])
      (.object [("code", .string "ba"), ("size", .nat 1)]) := by
    rw [conforms_object_iff]
    intro f hf
    simp only [List.mem_cons, List.not_mem_nil, or_false] at hf
    rcases hf with rfl | rfl
    · exact ⟨_, rfl, .leaf ⟨1, rfl⟩⟩
    · exact ⟨_, rfl, .leaf ⟨"ba", rfl, by decide⟩⟩
  have hconforms : Conforms (items [size, code]) (document "code") := by
    rw [conforms_object_iff]
    intro f hf
    obtain rfl := List.mem_singleton.mp hf
    exact ⟨_, rfl, .array (by simpa using hitem)⟩
  have haccepted := (hdecides (document "code") pos c).1.mpr hconforms
  refine ⟨Prod.ext haccepted (hdecides _ pos c).2, (hsame _ hswapped _ pos c).mpr haccepted, ?_⟩
  intro hpasses
  have hmissing := hfewer _ hplain' hfurther _ pos c hpasses
  cases hmissing

end DocSchema
