import DocSchema.Failure
import DocSchema.Validator

/-!
# Validating a value

A validator stops at the first requirement that fails; what checks recorded up to there, the
failing one included, stays recorded. On the way out each object adds itself to the trace.
-/
namespace DocSchema

/-- A step of validation: it goes on from what is recorded and either passes or fails. -/
abbrev Step := Context → Except Failure Unit × Context

namespace Step

/-- Nothing is required. -/
def pass : Step := fun c => (.ok (), c)

/-- Fails without recording anything. -/
def fail (f : Failure) : Step := fun c => (.error f, c)

/-- The second step follows if the first one passes. -/
def andThen (first second : Step) : Step := fun c =>
  match first c with
  | (.ok (), c) => second c
  | (.error f, c) => (.error f, c)

/-- Adds a validator to the trace if the step fails. -/
def within (e : TraceElement) (step : Step) : Step := fun c =>
  match step c with
  | (.ok (), c) => (.ok (), c)
  | (.error f, c) => (.error (f.within e), c)

/-- A check on a value, with the failure if it says no. -/
def ofCheck (check : Check) (node : Json) (f : Failure) : Step := fun c =>
  match check node c with
  | (true, c) => (.ok (), c)
  | (false, c) => (.error f, c)

/-- One step for each element, with its index. -/
def each (step : Json → Nat → Step) (first : Nat) : List Json → Step
  | [] => pass
  | v :: vs => andThen (step v first) (each step (first + 1) vs)

@[simp] theorem pass_andThen (s : Step) : andThen pass s = s := rfl

@[simp] theorem andThen_pass (s : Step) : andThen s pass = s := by
  funext c
  unfold andThen pass
  split <;> simp_all

theorem andThen_assoc (r s t : Step) : andThen (andThen r s) t = andThen r (andThen s t) := by
  funext c
  unfold andThen
  rcases r c with ⟨_ | _, _⟩ <;> rfl

@[simp] theorem fail_andThen (f : Failure) (s : Step) : andThen (fail f) s = fail f := rfl

/-- A step around two steps is around each. -/
theorem within_andThen (e : TraceElement) (s t : Step) :
    within e (andThen s t) = andThen (within e s) (within e t) := by
  funext c
  simp only [within, andThen]
  rcases s c with ⟨_ | _, _⟩ <;> rfl

end Step

mutual

/-- Validates a value at a position. -/
def Validator.validate : Validator → Json → Position → Step
  | .leaf l, node, pos =>
    Step.ofCheck l.check node (.single (.atNode l.token node pos .rejected))
  | .array e, node, pos =>
    if node.is .array then
      Step.each (fun item i => Validator.validate e item ⟨pos.name, some i⟩) 0 node.elements
    else Step.fail (.single (.atNode (Validator.array e).token node pos .notAnArray))
  | .object hook fields, node, pos =>
    let fieldsFirst :=
      Step.within (.atNode (Hook.token hook) node pos .nested) (validateFields fields node)
    match hook with
    | none => fieldsFirst
    | some h =>
      Step.andThen fieldsFirst
        (Step.ofCheck h.check node (.single (.atNode h.name node pos .hookRejected)))

/-- Validates the members of a value that fields require. -/
def validateFields : List (String × Validator) → Json → Step
  | [], _ => Step.pass
  | (name, v) :: rest, node =>
    let member := match node.get? name with
      | none => Step.fail (.single (.missing v.token name))
      | some m => Validator.validate v m ⟨name, none⟩
    Step.andThen member (validateFields rest node)

end

/-- Validates a value at a position. -/
def ObjectValidator.validate (o : ObjectValidator) (node : Json) (pos : Position) : Step :=
  o.toValidator.validate node pos

/-- What the hook of an object decides about a value; without a hook it is accepted. -/
def ObjectValidator.accepts (o : ObjectValidator) : Check :=
  match o.hook with
  | none => fun _ c => (true, c)
  | some h => h.check

end DocSchema
