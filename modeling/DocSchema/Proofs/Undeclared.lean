import DocSchema.Proofs.Conformance
import DocSchema.Schema

/-!
# Members that nobody declares

A schema says nothing about members that it does not declare.  Two documents are
alike for a validator if they differ in such members only (`AlikeFor`): an object
validator declares its fields, and below a value to which a leaf, an array
validator or no validator at all is applied, nothing is declared.  The difference
may be anywhere and in many places at once.

Plain validators cannot tell alike documents apart, not even by how they fail.
The two runs are compared in lock-step, by induction on the validator: both reach
alike values, these are of one kind, and so every element of the trace is the same
(`Validator.Plain.validate_eq`).
-/
namespace DocSchema

/-- The fields that a validator, if there is one, declares on the members of a
value. -/
def Validator.asked : Option Validator → List (String × Validator)
  | some (.object _ fields) => fields
  | _ => []

/-- **Values that differ in undeclared members only**, for the validator that is
applied to both, if there is one.  Objects have the same declared members, up to
such differences further in, and may have any others.  Arrays are as long as each
other, and what is applied to their elements is the element validator of an array
validator, or nothing. -/
inductive AlikeFor : Option Validator → Json → Json → Prop where
  | same (v : Option Validator) (d : Json) : AlikeFor v d d
  | array {v : Option Validator} {xs ys : List Json} : xs.length = ys.length →
      (∀ (i : Nat) (x y : Json), xs[i]? = some x → ys[i]? = some y →
        AlikeFor (v.bind Validator.element?) x y) →
      AlikeFor v (.array xs) (.array ys)
  | object {v : Option Validator} {ms ms' : List (String × Json)} :
      (∀ f ∈ Validator.asked v, Keyed.has ms f.1 = Keyed.has ms' f.1) →
      (∀ f ∈ Validator.asked v, ∀ m m', Keyed.get? ms f.1 = some m → Keyed.get? ms' f.1 = some m' →
        AlikeFor (some f.2) m m') →
      AlikeFor v (.object ms) (.object ms')

namespace AlikeFor
variable {v : Option Validator} {d d' : Json}

/-! ## What alike values have in common -/

theorem kind_eq (h : AlikeFor v d d') : d.kind = d'.kind := by
  cases h <;> rfl

theorem is_eq (h : AlikeFor v d d') (k : Kind) : d.is k = d'.is k := by
  rw [Json.is, Json.is, h.kind_eq]

theorem text?_eq (h : AlikeFor v d d') : d.text? = d'.text? := by
  cases h <;> rfl

theorem length_elements (h : AlikeFor v d d') : d.elements.length = d'.elements.length := by
  cases h with
  | same => rfl
  | array hlength _ => exact hlength
  | object _ _ => rfl

theorem element (h : AlikeFor v d d') {i : Nat} {x y : Json} (hx : d.elements[i]? = some x)
    (hy : d'.elements[i]? = some y) : AlikeFor (v.bind Validator.element?) x y := by
  cases h with
  | same =>
    rw [hx, Option.some.injEq] at hy
    exact hy ▸ .same _ x
  | array _ helements => exact helements i x y hx hy
  | object _ _ => cases hx

theorem has_eq (h : AlikeFor v d d') {f : String × Validator} (hf : f ∈ Validator.asked v) :
    d.has f.1 = d'.has f.1 := by
  cases h with
  | same => rfl
  | array _ _ => rfl
  | object hhas _ => exact hhas f hf

theorem member (h : AlikeFor v d d') {f : String × Validator} (hf : f ∈ Validator.asked v)
    {m m' : Json} (hm : d.get? f.1 = some m) (hm' : d'.get? f.1 = some m') :
    AlikeFor (some f.2) m m' := by
  cases h with
  | same =>
    rw [hm, Option.some.injEq] at hm'
    exact hm' ▸ .same _ m
  | array _ _ => cases hm
  | object _ hmembers => exact hmembers f hf m m' hm hm'

end AlikeFor

/-- Adding, removing or changing undeclared members of one object. -/
theorem AlikeFor.of_get?_eq {v : Option Validator} {ms ms' : List (String × Json)}
    (h : ∀ f ∈ Validator.asked v, Keyed.get? ms f.1 = Keyed.get? ms' f.1) :
    AlikeFor v (.object ms) (.object ms') := by
  refine .object (fun f hf => ?_) fun f hf m m' hm hm' => ?_
  · rw [Keyed.has, Keyed.has, h f hf]
  · rw [h f hf, hm', Option.some.injEq] at hm
    exact hm ▸ .same _ m'

/-! ## Two runs in lock-step -/

/-- A trace shows no more of a value than its kind. -/
theorem TraceElement.atNode_eq {d d' : Json} (h : d.kind = d'.kind) (token : String)
    (pos : Position) (reason : Reason) :
    atNode token d pos reason = atNode token d' pos reason := by
  rw [atNode, atNode, h]

/-- A plain leaf looks at the kind of a value and at its text. -/
theorem Leaf.Plain.check_eq {l : Leaf} (hl : l.Plain) {d d' : Json} (hkind : d.kind = d'.kind)
    (htext : d.text? = d'.text?) : l.check d = l.check d' := by
  cases hl with
  | string | boolean | int =>
    funext c
    simp only [Leaf.check, Check.ofPredicate, Json.is, hkind]
  | pattern _ | kind _ _ =>
    funext c
    simp only [Leaf.check, Check.matching, Check.ofPredicate, htext]

/-- Lists of one length are walked over in the same way if the steps at each place
are the same. -/
theorem Step.each_eq {step : Json → Nat → Step} {xs ys : List Json}
    (hlength : xs.length = ys.length)
    (h : ∀ (i : Nat) (x y : Json), xs[i]? = some x → ys[i]? = some y → step x = step y)
    (first : Nat) : Step.each step first xs = Step.each step first ys := by
  induction xs generalizing ys first with
  | nil =>
    obtain rfl := List.eq_nil_of_length_eq_zero hlength.symm
    rfl
  | cons x xs ih =>
    cases ys with
    | nil => cases hlength
    | cons y ys =>
      have hfirst : step x = step y := h 0 x y rfl rfl
      have hrest := ih (Nat.succ.inj hlength) (fun i x' y' => h (i + 1) x' y') (first + 1)
      rw [Step.each, Step.each, hfirst, hrest]

/-- Fields look at members of their names only. -/
theorem validateFields_eq {fields : List (String × Validator)} {d d' : Json}
    (hhas : ∀ f ∈ fields, d.has f.1 = d'.has f.1)
    (h : ∀ f ∈ fields, ∀ m m', d.get? f.1 = some m → d'.get? f.1 = some m' →
      ∀ pos, f.2.validate m pos = f.2.validate m' pos) :
    validateFields fields d = validateFields fields d' := by
  induction fields with
  | nil => rfl
  | cons f rest ih =>
    obtain ⟨name, v⟩ := f
    have hrest := ih (fun f hf => hhas f (List.mem_cons_of_mem _ hf))
      fun f hf => h f (List.mem_cons_of_mem _ hf)
    have hfirst := hhas (name, v) List.mem_cons_self
    have hmembers := h (name, v) List.mem_cons_self
    rw [validateFields, validateFields, hrest]
    simp only [Json.has] at hfirst hmembers
    -- The member is in both values, where the runs on it agree, or in neither.
    cases hm : d.get? name with
    | none =>
      rw [hm, Option.isSome_none, eq_comm, Option.isSome_eq_false_iff, Option.isNone_iff_eq_none]
        at hfirst
      rw [hfirst]
    | some m =>
      rw [hm, Option.isSome_some, eq_comm, Option.isSome_iff_exists] at hfirst
      obtain ⟨m', hm'⟩ := hfirst
      simp only [hm', hmembers m m' hm hm']

/-- **Plain validators cannot tell alike values apart.** -/
theorem Validator.Plain.validate_eq {v : Validator} (hv : v.Plain) {d d' : Json}
    (h : AlikeFor (some v) d d') (pos : Position) : v.validate d pos = v.validate d' pos := by
  induction hv generalizing d d' pos with
  | leaf hl =>
    rw [Validator.validate, Validator.validate]
    funext c
    simp only [Step.ofCheck, hl.check_eq h.kind_eq h.text?_eq, TraceElement.atNode_eq h.kind_eq]
  | array _ ih =>
    have helements := Step.each_eq h.length_elements
      (fun i x y hx hy => funext fun j => ih (h.element hx hy) ⟨pos.name, some j⟩) 0
    rw [Validator.validate, Validator.validate, helements, TraceElement.atNode_eq h.kind_eq,
      h.is_eq]
  | @object fields _ ih =>
    have hfields : validateFields fields d = validateFields fields d' :=
      validateFields_eq (fun f hf => h.has_eq hf)
        fun f hf m m' hm hm' pos => ih f hf (h.member hf hm hm') pos
    rw [Validator.validate, Validator.validate, hfields, TraceElement.atNode_eq h.kind_eq]

/-- **Undeclared members make no difference.**  With a schema that has no checks
but those of patterns, documents that differ in undeclared members only have one
outcome: both are accepted, with the same records, or both are refused, with the
same trace. -/
theorem validation_ignores_undeclared_members {s : Schema} (hs : s.root.toValidator.Plain)
    {d d' : Json} (h : AlikeFor (some s.root.toValidator) d d') : s.validate d = s.validate d' := by
  have hruns := hs.validate_eq h ⟨"", none⟩
  rw [Schema.validate, Schema.validate, ObjectValidator.validate, ObjectValidator.validate, hruns]

/-- An item with a size of the wrong kind is refused in the same way whatever else
is in the document, in the item, and in the value that stands for the size. -/
theorem undeclared_members_of_item :
    let s : Schema := ⟨{ fields := [("items", .array (.object none [("size", .leaf .int)]))] }⟩
    let d : Json := .object [("items", .array [.object [("size", .object [("a", .nat 1)])]])]
    let d' : Json := .object [("items", .array [.object [("note", .null), ("size", .object [])]]),
      ("more", .bool true)]
    s.root.toValidator.Plain ∧ AlikeFor (some s.root.toValidator) d d' ∧
      s.validate d = .error ⟨[⟨"Int", "size", none, .rejected, some "object"⟩,
        ⟨"Object", "items", some 0, .nested, some "object"⟩,
        ⟨"Object", "", none, .nested, some "object"⟩]⟩ ∧
      s.validate d = s.validate d' := by
  intro s d d'
  have hplain : s.root.toValidator.Plain :=
    .object (by simpa [s] using .array (.object (by simpa using .leaf .int)))
  have hsize : AlikeFor (some (.leaf .int)) (.object [("a", .nat 1)]) (.object []) :=
    .of_get?_eq (by simp [Validator.asked])
  have hitem : AlikeFor (some (.object none [("size", .leaf .int)]))
      (.object [("size", .object [("a", .nat 1)])])
      (.object [("note", .null), ("size", .object [])]) := by
    refine .object (by decide) fun f hf m m' hm hm' => ?_
    obtain rfl := List.mem_singleton.mp hf
    cases hm
    cases hm'
    exact hsize
  have halike : AlikeFor (some s.root.toValidator) d d' := by
    refine .object (by decide) fun f hf m m' hm hm' => ?_
    obtain rfl := List.mem_singleton.mp hf
    cases hm
    cases hm'
    refine .array rfl fun i x y hx hy => ?_
    cases i with
    | zero =>
      cases hx
      cases hy
      exact hitem
    | succ i => cases hx
  exact ⟨hplain, halike, rfl, validation_ignores_undeclared_members hplain halike⟩

end DocSchema
