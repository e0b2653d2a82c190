import DocSchema.Validator
import DocSchema.Text.Blank

/-!
# The registry of custom kinds

Type names that schemas may use beside the built-in ones, each with the check that it stands for.
-/
namespace DocSchema

/-- What a custom kind checks: a single value, or an object after its fields. -/
inductive CustomKind where
  | element (check : Check)
  | object (check : Check)

namespace Registry

/-- The type names that are built in. -/
def builtinTokens : List String := ["String", "Boolean", "Int", "Object"]

/-- A name that no custom kind can have: a built-in one, one that reads as a pattern or an array, or
one that is no token. -/
def isReserved (name : String) : Bool :=
  builtinTokens.contains name ||
    patternPrefix.toList.isPrefixOf name.toList ||
    arraySuffix.toList.isSuffixOf name.toList ||
    name.isEmpty ||
    name.toList.any isBlank

end Registry

/-- The custom kinds by name. -/
structure Registry where
  kinds : List (String × CustomKind) := []
  /-- Kinds enter by `register` alone, which refuses reserved names. -/
  unreserved : ∀ name ∈ Keyed.keys kinds, Registry.isReserved name = false := by simp

namespace Registry

/-- No custom kind. -/
def empty : Registry := {}

/-- Registers a kind in place of an earlier one of that name, unless the name is reserved; whether
it was registered. -/
def register (r : Registry) (name : String) (kind : CustomKind) : Bool × Registry :=
  if h : isReserved name then (false, r)
  else (true, {
    kinds := Keyed.insert r.kinds name kind
    unreserved := fun other hother => by
      obtain rfl | hold := (Keyed.mem_keys_insert ..).mp hother
      · simpa using h
      · exact r.unreserved other hold })

/-- Registers a check on single values. -/
def registerElement (r : Registry) (name : String) (check : Check) : Bool × Registry :=
  r.register name (.element check)

/-- Registers a check on objects. -/
def registerObject (r : Registry) (name : String) (check : Check) : Bool × Registry :=
  r.register name (.object check)

/-- Registers a check for texts in which a pattern occurs; none if the pattern is not valid. -/
def registerPattern? (r : Registry) (name pattern : String) : Option (Bool × Registry) :=
  (Pattern.compile? pattern).map fun p => r.registerElement name (Check.matching p)

/-- The kind of a name. -/
def get? (r : Registry) (name : String) : Option CustomKind := Keyed.get? r.kinds name

/-- The name is registered. -/
def contains (r : Registry) (name : String) : Bool := (r.get? name).isSome

/-- The registered names in order. -/
def names (r : Registry) : List String := Keyed.keys r.kinds

/-- A new validator of a registered kind: a leaf or an object without fields. -/
def construct? (r : Registry) (name : String) : Option (Leaf ⊕ ObjectValidator) :=
  (r.get? name).map fun
    | .element check => .inl (.custom name check)
    | .object check => .inr (.withHook name check)

theorem get?_register (r : Registry) (name other : String) (kind : CustomKind) :
    (r.register name kind).2.get? other =
      if name = other ∧ ¬ isReserved name then some kind else r.get? other := by
  unfold register
  split
  · simp [*]
  · simp only [get?, Keyed.get?_insert]
    grind

/-- A registered name is not reserved. -/
theorem isReserved_eq_false {r : Registry} {name : String} {kind : CustomKind}
    (h : r.get? name = some kind) : isReserved name = false := by
  apply r.unreserved
  rw [Keyed.mem_keys_iff, show Keyed.get? r.kinds name = some kind from h]
  rfl

end Registry
end DocSchema
