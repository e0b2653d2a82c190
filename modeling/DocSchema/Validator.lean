import DocSchema.Context

/-!
# Validators

The tree of requirements that a schema places on a document. A leaf decides about one value, an
array validator about each element, an object validator about its fields in order and then, if it
is of a custom kind, about the object as a whole.
-/
namespace DocSchema

/-- The type name of a plain object. -/
def objectToken : String := "Object"

/-- What introduces the pattern of a type that is a pattern. -/
def patternPrefix : String := "Regex:"

/-- What marks a type as an array of the type before it. -/
def arraySuffix : String := "[]"

/-- A requirement on a single value. -/
inductive Leaf where
  | string
  | boolean
  | int
  /-- A text in which the pattern occurs. -/
  | pattern (p : Pattern)
  /-- A kind with a name and a check of its own. -/
  | custom (name : String) (check : Check)

/-- The type name of a leaf. -/
def Leaf.token : Leaf → String
  | string => "String"
  | boolean => "Boolean"
  | int => "Int"
  | pattern p => patternPrefix ++ p.text
  | custom name _ => name

/-- What a leaf decides about a value. -/
def Leaf.check : Leaf → Check
  | string => Check.ofPredicate (·.is .string)
  | boolean => Check.ofPredicate (·.is .boolean)
  | int => Check.ofPredicate (·.is .integer)
  | pattern p => Check.matching p
  | custom _ check => check

/-- The check on a whole object that makes it of a custom kind. -/
structure Hook where
  name : String
  check : Check

/-- The type name of an object. -/
def Hook.token : Option Hook → String
  | none => objectToken
  | some hook => hook.name

/-- A tree of requirements. -/
inductive Validator where
  | leaf (leaf : Leaf)
  | array (element : Validator)
  /-- Every field is required; the hook is asked after the fields. -/
  | object (hook : Option Hook) (fields : List (String × Validator))

/-- The type name of a validator. -/
def Validator.token : Validator → String
  | leaf l => l.token
  | array e => e.token ++ arraySuffix
  | object hook _ => Hook.token hook

/-- The validator of the elements of an array. -/
def Validator.element? : Validator → Option Validator
  | array e => some e
  | _ => none

/-- The fields that a validator declares on its value or on the elements of its value. -/
def Validator.declared : Validator → List (String × Validator)
  | object _ fields => fields
  | array (object _ fields) => fields
  | _ => []

/-- An object validator. -/
structure ObjectValidator where
  hook : Option Hook := none
  fields : List (String × Validator) := []

namespace ObjectValidator

/-- An object of a custom kind without fields. -/
def withHook (name : String) (check : Check) : ObjectValidator := { hook := some ⟨name, check⟩ }

/-- The object as a validator. -/
def toValidator (o : ObjectValidator) : Validator := .object o.hook o.fields

/-- The object is of a custom kind. -/
def isCustom (o : ObjectValidator) : Bool := o.hook.isSome

/-- The type name of the object. -/
def token (o : ObjectValidator) : String := Hook.token o.hook

/-- Requires a field; a field of that name is replaced where it stands. -/
def set (o : ObjectValidator) (name : String) (v : Validator) : ObjectValidator :=
  { o with fields := Keyed.set o.fields name v }

/-- The validator of a field. -/
def get? (o : ObjectValidator) (name : String) : Option Validator := Keyed.get? o.fields name

/-- The names of the fields in order. -/
def keys (o : ObjectValidator) : List String := Keyed.keys o.fields

/-- The number of fields. -/
def size (o : ObjectValidator) : Nat := o.fields.length

@[simp] theorem token_toValidator (o : ObjectValidator) : o.toValidator.token = o.token := rfl

@[simp] theorem hook_set (o : ObjectValidator) (name : String) (v : Validator) :
    (o.set name v).hook = o.hook := rfl

theorem get?_set (o : ObjectValidator) (name other : String) (v : Validator) :
    (o.set name v).get? other = if name = other then some v else o.get? other :=
  Keyed.get?_set ..

end ObjectValidator
end DocSchema
