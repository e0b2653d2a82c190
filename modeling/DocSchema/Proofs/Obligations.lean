import DocSchema.Validator.Run

/-!
# Validation as a list of obligations

`Validator.validate` walks a tree of requirements and a document at once: it
passes positions down, threads what checks record, stops at the first failure
and wraps the trace on the way out.  None of this changes *what* is asked: the
tree and the value alone determine a list of obligations
(`Validator.obligations`), each with the objects around it, and validating is
running that list from left to right (`Validator.validate_eq_runAll`).

An obligation does not know where the validation started.  Its places are seen
from the value under validation (`Place`), so that one list serves every name
and index under which the value is met.
-/
namespace DocSchema

/-! ## Places -/

/-- Where a value stands, seen from the value under validation. -/
inductive Place where
  /-- It is that value. -/
  | start
  /-- It is an element of that value, or of an element of it: an array in an
  array keeps the name and replaces the index. -/
  | item (index : Nat)
  /-- It is a member further in, or an element of one. -/
  | inner (pos : Position)

namespace Place

/-- The position of a value from the position of the value under validation. -/
def locate : Place → Position → Position
  | start, pos => pos
  | item i, pos => ⟨pos.name, some i⟩
  | inner pos, _ => pos

/-- A place seen from a value that itself stands at an outer place. -/
def after (outer : Place) : Place → Place
  | start => outer
  | item i =>
    match outer with
    | inner pos => inner ⟨pos.name, some i⟩
    | _ => item i
  | inner pos => inner pos

@[simp] theorem locate_after (outer place : Place) (pos : Position) :
    (outer.after place).locate pos = place.locate (outer.locate pos) := by
  cases place <;> cases outer <;> rfl

end Place

/-! ## Obligations and their runs -/

/-- What is asked of a value. -/
inductive Demand where
  /-- The leaf accepts the value. -/
  | leaf (l : Leaf)
  /-- The value is an array, as an array validator of a type name wants. -/
  | array (token : String)
  /-- The value has a member that it does not have. -/
  | member (token name : String)
  /-- The hook of an object accepts the value. -/
  | hook (h : Hook)

namespace Demand

/-- The decision about a value. -/
def check : Demand → Check
  | leaf l => l.check
  | array _ => Check.ofPredicate (·.is .array)
  | member _ _ => Check.ofPredicate fun _ => false
  | hook h => h.check

/-- The validator that a failure of the demand blames first. -/
def element : Demand → Json → Position → TraceElement
  | leaf l, node, pos => .atNode l.token node pos .rejected
  | array token, node, pos => .atNode token node pos .notAnArray
  | member token name, _, _ => .missing token name
  | hook h, node, pos => .atNode h.name node pos .hookRejected

end Demand

/-- An object validator around an obligation. -/
structure Enclosure where
  token : String
  node : Json
  place : Place := .start

namespace Enclosure

/-- The object in a trace: it only passes on the failure of a field. -/
def element (e : Enclosure) (pos : Position) : TraceElement :=
  .atNode e.token e.node (e.place.locate pos) .nested

/-- The object seen from further out. -/
def under (e : Enclosure) (outer : Place) : Enclosure := { e with place := outer.after e.place }

@[simp] theorem element_under (e : Enclosure) (outer : Place) (pos : Position) :
    (e.under outer).element pos = e.element (outer.locate pos) := by
  simp [element, under]

end Enclosure

/-- One thing that validation asks. -/
structure Obligation where
  demand : Demand
  /-- The value that is asked about. -/
  node : Json
  place : Place := .start
  /-- The objects around it, innermost first. -/
  around : List Enclosure := []

namespace Obligation

/-- The decision, from what was recorded before. -/
def test (o : Obligation) (c : Context) : Bool × Context := o.demand.check o.node c

/-- The whole trace of a failure: the validator that asked, then the objects around it. -/
def failure (o : Obligation) (pos : Position) : Failure :=
  ⟨o.demand.element o.node (o.place.locate pos) :: o.around.map (·.element pos)⟩

/-- The obligation seen from further out. -/
def under (o : Obligation) (outer : Place) : Obligation :=
  { o with place := outer.after o.place, around := o.around.map (·.under outer) }

/-- The obligation with one more object around it. -/
def inside (o : Obligation) (e : Enclosure) : Obligation := { o with around := o.around ++ [e] }

/-- Runs obligations from left to right, with one record, until the first that fails. -/
def runAll (pos : Position) : List Obligation → Step
  | [] => Step.pass
  | o :: os => fun c =>
    match o.test c with
    | (true, c) => runAll pos os c
    | (false, c) => (.error (o.failure pos), c)

theorem eq_failure_iff {o : Obligation} {pos : Position} {f : Failure} :
    f = o.failure pos ↔ f.trace = o.demand.element o.node (o.place.locate pos) ::
      o.around.map (·.element pos) := by
  constructor
  · rintro rfl
    rfl
  · intro h
    cases f
    simpa only [failure, Failure.mk.injEq] using h

theorem failure_under (o : Obligation) (outer : Place) (pos : Position) :
    (o.under outer).failure pos = o.failure (outer.locate pos) := by
  simp [failure, under]

theorem failure_inside (o : Obligation) (e : Enclosure) (pos : Position) :
    (o.inside e).failure pos = (o.failure pos).within (e.element pos) := by
  simp [failure, inside, Failure.within]

@[simp] theorem runAll_nil (pos : Position) : runAll pos [] = Step.pass := rfl

theorem runAll_cons (pos : Position) (o : Obligation) (os : List Obligation) :
    runAll pos (o :: os) =
      Step.andThen (Step.ofCheck o.demand.check o.node (o.failure pos)) (runAll pos os) := by
  funext c
  simp only [runAll, test, Step.andThen, Step.ofCheck]
  rcases o.demand.check o.node c with ⟨_ | _, _⟩ <;> rfl

theorem runAll_append (pos : Position) (xs ys : List Obligation) :
    runAll pos (xs ++ ys) = Step.andThen (runAll pos xs) (runAll pos ys) := by
  induction xs with
  | nil => rfl
  | cons o os ih => rw [List.cons_append, runAll_cons, runAll_cons, ih, Step.andThen_assoc]

/-- Seen from further out, obligations run as from where they are. -/
theorem runAll_under (pos : Position) (outer : Place) (os : List Obligation) :
    runAll pos (os.map (·.under outer)) = runAll (outer.locate pos) os := by
  induction os with
  | nil => rfl
  | cons o os ih =>
    rw [List.map_cons, runAll_cons, runAll_cons, ih, failure_under]
    rfl

/-- An object around all obligations is added to the trace of whichever fails. -/
theorem runAll_inside (pos : Position) (e : Enclosure) (os : List Obligation) :
    runAll pos (os.map (·.inside e)) = Step.within (e.element pos) (runAll pos os) := by
  induction os with
  | nil => rfl
  | cons o os ih =>
    have hcheck : ∀ f : Failure, Step.ofCheck o.demand.check o.node (f.within (e.element pos)) =
        Step.within (e.element pos) (Step.ofCheck o.demand.check o.node f) := by
      intro f
      funext c
      simp only [Step.ofCheck, Step.within]
      rcases o.demand.check o.node c with ⟨_ | _, _⟩ <;> rfl
    rw [List.map_cons, runAll_cons, runAll_cons, Step.within_andThen, ih, failure_inside,
      ← hcheck]
    rfl

/-- **How a run fails.**  The obligations before some point pass, the next one
says no, and what it recorded last is all that is recorded. -/
theorem runAll_eq_error_iff {pos : Position} {os : List Obligation} {c c' : Context}
    {f : Failure} :
    runAll pos os c = (.error f, c') ↔
      ∃ before o rest c₁, os = before ++ o :: rest ∧ runAll pos before c = (.ok (), c₁) ∧
        o.test c₁ = (false, c') ∧ f = o.failure pos := by
  constructor
  · intro h
    induction os generalizing c with
    | nil => cases h
    | cons o os ih =>
      rcases htest : o.test c with ⟨_ | _, c₂⟩
      · simp only [runAll, htest] at h
        obtain ⟨rfl, rfl⟩ : o.failure pos = f ∧ c₂ = c' := by simpa using h
        exact ⟨[], o, os, c, rfl, rfl, htest, rfl⟩
      · simp only [runAll, htest] at h
        obtain ⟨before, o', rest, c₁, rfl, hrun, hfail, rfl⟩ := ih h
        exact ⟨o :: before, o', rest, c₁, rfl, by simpa only [runAll, htest] using hrun, hfail, rfl⟩
  · rintro ⟨before, o, rest, c₁, rfl, hrun, hfail, rfl⟩
    rw [runAll_append, Step.andThen, hrun]
    simp only [runAll, hfail]

end Obligation

/-! ## The obligations of a validator -/

/-- The obligation that the hook of an object adds. -/
def Hook.obligations (hook : Option Hook) (node : Json) : List Obligation :=
  match hook with
  | none => []
  | some h => [{ demand := .hook h, node }]

mutual

/-- What a validator asks of a value, in order. -/
def Validator.obligations : Validator → Json → List Obligation
  | .leaf l, node => [{ demand := .leaf l, node }]
  | .array e, node =>
    { demand := .array (Validator.array e).token, node } ::
      node.elements.zipIdx.flatMap fun (value, i) =>
        (Validator.obligations e value).map (·.under (.item i))
  | .object hook fields, node =>
    (fieldObligations fields node).map (·.inside { token := Hook.token hook, node }) ++
      Hook.obligations hook node

/-- What fields ask of the members of a value, in order. -/
def fieldObligations : List (String × Validator) → Json → List Obligation
  | [], _ => []
  | (name, v) :: rest, node =>
    (match node.get? name with
      | none => [{ demand := .member v.token name, node }]
      | some value => (Validator.obligations v value).map (·.under (.inner ⟨name, none⟩))) ++
    fieldObligations rest node

end

open Obligation

/-- Elements are asked one after the other, each under its index. -/
theorem each_eq_runAll {validate : Json → Position → Step} {obligations : Json → List Obligation}
    (h : ∀ value pos, validate value pos = runAll pos (obligations value)) (pos : Position)
    (first : Nat) (values : List Json) :
    Step.each (fun value i => validate value ⟨pos.name, some i⟩) first values =
      runAll pos ((values.zipIdx first).flatMap fun (value, i) =>
        (obligations value).map (·.under (.item i))) := by
  induction values generalizing first with
  | nil => rfl
  | cons value values ih =>
    rw [List.zipIdx_cons, List.flatMap_cons, runAll_append, runAll_under, ← ih, Step.each, h]
    rfl

/-- A hook asks last, and its object is not around its own question. -/
theorem runAll_hook_obligations (hook : Option Hook) (node : Json) (pos : Position) (s : Step) :
    Step.andThen s (runAll pos (Hook.obligations hook node)) =
      match hook with
      | none => s
      | some h =>
        Step.andThen s
          (Step.ofCheck h.check node (.single (.atNode h.name node pos .hookRejected))) := by
  cases hook with
  | none => exact Step.andThen_pass s
  | some h =>
    rw [Hook.obligations, runAll_cons, runAll_nil, Step.andThen_pass]
    rfl

mutual

/-- **Validating is running the obligations.** -/
theorem Validator.validate_eq_runAll (v : Validator) (node : Json) (pos : Position) :
    v.validate node pos = runAll pos (v.obligations node) := by
  match v with
  | .leaf l =>
    rw [Validator.validate, Validator.obligations, runAll_cons, runAll_nil, Step.andThen_pass]
    rfl
  | .array e =>
    have hitems := each_eq_runAll (fun value pos => Validator.validate_eq_runAll e value pos)
      pos 0 node.elements
    rw [Validator.validate, Validator.obligations, runAll_cons, ← hitems]
    funext c
    by_cases harray : node.is .array = true
    · simp [harray, Step.andThen, Step.ofCheck, Demand.check, Check.ofPredicate]
    · simp [harray, Step.andThen, Step.ofCheck, Demand.check, Check.ofPredicate, Step.fail,
        Obligation.failure, Demand.element, Failure.single, Place.locate]
  | .object hook fields =>
    -- The object is around its fields only: its hook is asked outside of it.
    rw [Validator.obligations, runAll_append, runAll_inside, runAll_hook_obligations,
      ← validateFields_eq_runAll fields node pos]
    cases hook with
    | none => rw [Validator.validate]; rfl
    | some h => rw [Validator.validate]; rfl

/-- Fields are asked in order; where the object stands is of no account to them. -/
theorem validateFields_eq_runAll (fields : List (String × Validator)) (node : Json)
    (pos : Position) :
    validateFields fields node = runAll pos (fieldObligations fields node) := by
  match fields with
  | [] => rw [validateFields, fieldObligations, runAll_nil]
  | (name, v) :: rest =>
    rw [validateFields, fieldObligations, runAll_append,
      ← validateFields_eq_runAll rest node pos]
    cases hmember : node.get? name with
    | none => rfl
    | some value =>
      simp only [runAll_under]
      rw [← Validator.validate_eq_runAll v value]
      rfl

end

/-- **Validation is determined by its obligations**, which the tree and the value
alone determine.  Verdict, record and trace are those of running them in order;
so a failure is that of the first obligation that says no, with what was
recorded up to there, and its trace is the validator that asked followed by the
objects around it. -/
theorem validate_runs_obligations (v : Validator) (node : Json) (pos : Position) (c : Context) :
    v.validate node pos c = runAll pos (v.obligations node) c ∧
      ∀ f c', v.validate node pos c = (.error f, c') ↔
        ∃ before o rest c₁, v.obligations node = before ++ o :: rest ∧
          runAll pos before c = (.ok (), c₁) ∧ o.test c₁ = (false, c') ∧
          f.trace = o.demand.element o.node (o.place.locate pos) ::
            o.around.map (·.element pos) := by
  refine ⟨by rw [Validator.validate_eq_runAll], fun f c' => ?_⟩
  simp only [Validator.validate_eq_runAll, runAll_eq_error_iff, eq_failure_iff]

end DocSchema
