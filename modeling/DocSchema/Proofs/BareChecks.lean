import DocSchema.Proofs.Failure.Location
import DocSchema.Proofs.Notation.Outline

/-!
# Checks without the names of their kinds

A kind of leaf is a name and a check.  The check decides; the name is told in the
trace, by the element that stands for the leaf that refused or that found no value.
So validators with the same checks in the same places (`Validator.bare`) go through a
document in the same way, and what they tell differs at most in the innermost element
of a failure, in the type (`Schema.validate_of_bare_eq_bare`).

The names are left out on both sides of a run: in the tree before it and in the trace
after it.  Reading a schema text commutes with leaving them out, line by line
(`bare_outline`).
-/
namespace DocSchema

/-! ## Trees -/

/-- The check of a leaf, under no name. -/
def Leaf.bare (l : Leaf) : Leaf := .custom "" l.check

mutual

/-- The checks of a validator, with the kinds of its objects. -/
def Validator.bare : Validator → Validator
  | .leaf l => .leaf l.bare
  | .array e => .array (Validator.bare e)
  | .object hook fields => .object hook (bareFields fields)

/-- The checks of fields. -/
def bareFields : List (String × Validator) → List (String × Validator)
  | [] => []
  | (name, v) :: rest => (name, Validator.bare v) :: bareFields rest

end

/-- The checks of an object validator. -/
def ObjectValidator.bare (o : ObjectValidator) : ObjectValidator :=
  { o with fields := bareFields o.fields }

theorem bareFields_set (fields : List (String × Validator)) (name : String) (v : Validator) :
    bareFields (Keyed.set fields name v) = Keyed.set (bareFields fields) name v.bare := by
  induction fields with
  | nil => rfl
  | cons field rest ih =>
    obtain ⟨k, w⟩ := field
    rw [Keyed.set, bareFields, Keyed.set]
    split
    · rfl
    · rw [bareFields, ih]

namespace ObjectValidator

theorem bare_set (o : ObjectValidator) (name : String) (v : Validator) :
    (o.set name v).bare = o.bare.set name v.bare := by
  rw [bare, set, bareFields_set]
  rfl

theorem bare_setAll (o : ObjectValidator) (fields : List (String × Validator)) :
    (o.setAll fields).bare = o.bare.setAll (bareFields fields) := by
  induction fields generalizing o with
  | nil => rfl
  | cons field rest ih =>
    obtain ⟨name, v⟩ := field
    rw [setAll, List.foldl_cons, ← setAll, ih, bare_set]
    rfl

theorem bare_toValidator (o : ObjectValidator) : o.toValidator.bare = o.bare.toValidator := rfl

end ObjectValidator

/-! ## Traces -/

/-- An element without the type of the validator at fault. -/
def TraceElement.bare (e : TraceElement) : TraceElement :=
  if e.reason = .nested then e else { e with validator := "" }

/-- A failure without the type of the validator at fault. -/
def Failure.bare (f : Failure) : Failure := ⟨f.trace.map TraceElement.bare⟩

/-- A step whose failures do not tell the type of the validator at fault. -/
def Step.bare (s : Step) : Step := fun c => ((s c).1.mapError Failure.bare, (s c).2)

theorem TraceElement.bare_of_nested {e : TraceElement} (h : e.reason = .nested) : e.bare = e :=
  if_pos h

theorem Failure.bare_within {f : Failure} {e : TraceElement} (h : e.reason = .nested) :
    (f.within e).bare = f.bare.within e := by
  simp [bare, within, TraceElement.bare_of_nested h]

namespace Step

@[simp] theorem bare_andThen (s t : Step) : (andThen s t).bare = andThen s.bare t.bare := by
  funext c
  simp only [bare, andThen]
  rcases s c with ⟨_ | _, _⟩ <;> rfl

@[simp] theorem bare_ofCheck (check : Check) (node : Json) (f : Failure) :
    (ofCheck check node f).bare = ofCheck check node f.bare := by
  funext c
  simp only [bare, ofCheck]
  rcases check node c with ⟨_ | _, _⟩ <;> rfl

/-- What an object around a step adds to a trace is told in full. -/
theorem bare_within {e : TraceElement} (h : e.reason = .nested) (s : Step) :
    (within e s).bare = within e s.bare := by
  funext c
  simp only [bare, within]
  rcases s c with ⟨f | _, c'⟩
  · exact congrArg (Except.error · , c') (Failure.bare_within h)
  · rfl

theorem bare_each (step : Json → Nat → Step) (first : Nat) (values : List Json) :
    (each step first values).bare = each (fun value i => (step value i).bare) first values := by
  induction values generalizing first with
  | nil => rfl
  | cons value values ih => rw [each, bare_andThen, ih, each]

end Step

/-! ## Two runs in lock-step -/

mutual

/-- **Names of kinds do not decide.**  A validator and its checks take the same steps. -/
theorem Validator.bare_validate (v : Validator) (node : Json) (pos : Position) :
    (v.bare.validate node pos).bare = (v.validate node pos).bare := by
  match v with
  | .leaf l =>
    rw [Validator.bare, Validator.validate, Validator.validate, Step.bare_ofCheck,
      Step.bare_ofCheck]
    rfl
  | .array e =>
    have hitem : ∀ item i, (e.bare.validate item ⟨pos.name, some i⟩).bare =
        (e.validate item ⟨pos.name, some i⟩).bare := fun item i =>
      Validator.bare_validate e item ⟨pos.name, some i⟩
    rw [Validator.bare, Validator.validate, Validator.validate]
    split
    · rw [Step.bare_each, Step.bare_each]
      simp only [hitem]
    · rfl
  | .object hook fields =>
    -- The element that the object adds to a trace is no fault of its own, so it is told in full.
    have hfields := bare_validateFields fields node
    have hwithin : (Step.within (.atNode (Hook.token hook) node pos .nested)
        (validateFields (bareFields fields) node)).bare =
        (Step.within (.atNode (Hook.token hook) node pos .nested)
          (validateFields fields node)).bare := by
      rw [Step.bare_within rfl, Step.bare_within rfl, hfields]
    cases hook with
    | none =>
      rw [Validator.bare, Validator.validate, Validator.validate]
      exact hwithin
    | some h =>
      rw [Validator.bare, Validator.validate, Validator.validate]
      simp only [Step.bare_andThen, hwithin]

theorem bare_validateFields (fields : List (String × Validator)) (node : Json) :
    (validateFields (bareFields fields) node).bare = (validateFields fields node).bare := by
  match fields with
  | [] => rfl
  | (name, v) :: rest =>
    have hrest := bare_validateFields rest node
    rw [bareFields, validateFields, validateFields]
    simp only [Step.bare_andThen, hrest]
    cases node.get? name with
    | none => rfl
    | some m => simp only [Validator.bare_validate v m ⟨name, none⟩]

end

/-- **Schemas with the same checks decide alike**, with the same records, and their failures differ
at most in the type of the validator at fault. -/
theorem Schema.validate_of_bare_eq_bare {s s' : Schema} (h : s.root.bare = s'.root.bare)
    (d : Json) :
    (∃ c, s.validate d = .ok c ∧ s'.validate d = .ok c) ∨
      ∃ f f', s.validate d = .error f ∧ s'.validate d = .error f' ∧ f.bare = f'.bare := by
  have hsteps : (s.root.validate d ⟨"", none⟩).bare = (s'.root.validate d ⟨"", none⟩).bare := by
    rw [ObjectValidator.validate, ObjectValidator.validate, ← Validator.bare_validate,
      ← Validator.bare_validate s'.root.toValidator, ObjectValidator.bare_toValidator,
      ObjectValidator.bare_toValidator, h]
  have hrun := congrFun hsteps Context.empty
  unfold Step.bare at hrun
  unfold Schema.validate
  generalize s.root.validate d ⟨"", none⟩ Context.empty = run at hrun ⊢
  generalize s'.root.validate d ⟨"", none⟩ Context.empty = run' at hrun ⊢
  obtain ⟨hresult, hrecord⟩ := Prod.mk.inj hrun
  obtain ⟨result, c⟩ := run
  obtain ⟨result', c'⟩ := run'
  cases result with
  | ok =>
    cases result' with
    | ok => exact .inl ⟨c, rfl, congrArg Except.ok hrecord.symm⟩
    | error f' => cases hresult
  | error f =>
    cases result' with
    | ok => cases hresult
    | error f' => exact .inr ⟨f, f', rfl, rfl, Except.error.inj hresult⟩

/-! ## Failures up to the type of the validator at fault -/

namespace TraceElement

@[simp] theorem reason_bare (e : TraceElement) : e.bare.reason = e.reason := by
  unfold bare
  split <;> rfl

theorem eq_of_bare_eq_bare {e e' : TraceElement} (h : e.bare = e'.bare) :
    e' = { e with validator := e'.validator } := by
  have hbare : ∀ (e : TraceElement) (type : String),
      { e.bare with validator := type } = { e with validator := type } := by
    intro e type
    unfold bare
    split <;> rfl
  rw [← hbare, h, hbare]

/-- Elements that only pass on a failure are told in full. -/
theorem eq_of_map_bare_eq_map_bare {es es' : List TraceElement}
    (hnested : ∀ e ∈ es, e.reason = .nested) (h : es.map bare = es'.map bare) : es' = es := by
  induction es generalizing es' with
  | nil => exact List.map_eq_nil_iff.mp h.symm
  | cons e es ih =>
    rw [List.forall_mem_cons] at hnested
    obtain ⟨e', rest, rfl, he, hrest⟩ := List.map_eq_cons_iff.mp h.symm
    have hreason : e'.reason = .nested := by rw [← reason_bare, he, reason_bare, hnested.1]
    rw [bare_of_nested hreason, bare_of_nested hnested.1] at he
    rw [he, ih hnested.2 hrest.symm]

end TraceElement

/-- Failures that are told alike but for the type at fault have traces that differ in it at most. -/
theorem Failure.exists_type_of_bare_eq_bare {f f' : Failure} {e : TraceElement}
    {around : List TraceElement} (h : f.bare = f'.bare) (htrace : f.trace = e :: around)
    (hnested : ∀ e ∈ around, e.reason = .nested) :
    ∃ type, f'.trace = { e with validator := type } :: around := by
  have hmap : (e :: around).map TraceElement.bare = f'.trace.map TraceElement.bare :=
    htrace ▸ Failure.mk.inj h
  obtain ⟨e', around', htrace', he, haround⟩ := List.map_eq_cons_iff.mp hmap.symm
  refine ⟨e'.validator, ?_⟩
  rw [htrace', TraceElement.eq_of_map_bare_eq_map_bare hnested haround.symm,
    ← TraceElement.eq_of_bare_eq_bare he.symm]

/-! ## Outlines -/

namespace Notation

/-- The checks that a type name declares. -/
def Declared.bare : Declared → Declared
  | .leaf v => .leaf v.bare
  | .opens o isArray => .opens o.bare isArray

/-- A line with the checks that its type name declares. -/
def Entry.bare (e : Entry) : Entry := { e with declared := e.declared.bare }

theorem Declared.bare_validator (d : Declared) (fields : List (String × Validator)) :
    (d.validator fields).bare = d.bare.validator (bareFields fields) := by
  cases d with
  | leaf v => rfl
  | opens o isArray =>
    cases isArray
    · exact congrArg ObjectValidator.toValidator (ObjectValidator.bare_setAll o fields)
    · exact congrArg (Validator.array ·.toValidator) (ObjectValidator.bare_setAll o fields)

theorem Declared.room_bare (d : Declared) : d.bare.room = d.room := by
  cases d <;> rfl

theorem climbs_map_bare {room : Nat} {es : List Entry} :
    Climbs room (es.map Entry.bare) ↔ Climbs room es := by
  induction es generalizing room with
  | nil => rfl
  | cons e rest ih =>
    rw [List.map_cons, Climbs, Climbs, ih]
    simp only [Entry.bare, Declared.room_bare]

/-- Which fields lines declare does not depend on the names of kinds. -/
theorem bareFields_declaredAt (depth : Nat) (es : List Entry) :
    bareFields (declaredAt depth es) = declaredAt depth (es.map Entry.bare) := by
  induction depth, es using declaredAt.induct with
  | case1 depth =>
    rw [List.map_nil, declaredAt_nil]
    rfl
  | case2 e rest ihBody ihRest =>
    -- Where the body ends is a matter of depths, which are kept.
    have htake : (rest.map Entry.bare).takeWhile (e.depth < ·.depth) =
        (rest.takeWhile (e.depth < ·.depth)).map Entry.bare := by
      rw [List.takeWhile_map]
      rfl
    have hbare : e.bare.depth = e.depth := rfl
    rw [List.map_cons, declaredAt_cons rest rfl, declaredAt_cons _ hbare, bareFields, ihRest,
      Declared.bare_validator, ihBody, htake]
    rfl
  | case3 depth e rest hne ih =>
    rw [List.map_cons, declaredAt, if_neg hne, declaredAt,
      if_neg (show e.bare.depth ≠ depth from hne), ih]

theorem bare_outline (es : List Entry) : (outline es).bare = outline (es.map Entry.bare) := by
  rw [outline, ObjectValidator.bare_setAll, bareFields_declaredAt]
  rfl

end Notation

end DocSchema
