import DocSchema.Keyed
import DocSchema.Number.Binary64

/-!
# Document values

A value is the tree that a document denotes, whatever notation it was written in. The look-ups are
total; a member of a value that is no object does not exist, and a value that is no array has no
elements.
-/
namespace DocSchema

/-- A number is an integer of at most 64 bits, signed or not, or a floating-point number. -/
inductive Number where
  | int (value : Int)
  | real (value : Binary64)
deriving DecidableEq, Repr

/-- A document value. The members of an object that was read from a document are sorted by name. -/
inductive Json where
  | null
  | bool (value : Bool)
  | number (value : Number)
  | string (text : String)
  | array (elements : List Json)
  | object (members : List (String × Json))
deriving Repr, Inhabited

/-- The kinds of values that a validator can tell apart. -/
inductive Kind where
  | null | boolean | integer | number | string | array | object
deriving DecidableEq, Repr

/-- The word for a kind in a failure. -/
def Kind.label : Kind → String
  | .null => "null"
  | .boolean => "boolean"
  | .integer => "integer"
  | .number => "number"
  | .string => "string"
  | .array => "array"
  | .object => "object"

namespace Json

/-- The kind of a value. -/
def kind : Json → Kind
  | null => .null
  | bool _ => .boolean
  | number (.int _) => .integer
  | number (.real _) => .number
  | string _ => .string
  | array _ => .array
  | object _ => .object

/-- The value is of a kind. -/
def is (v : Json) (k : Kind) : Bool := v.kind = k

/-- The text of a string. -/
def text? : Json → Option String
  | string s => some s
  | _ => none

/-- The elements of an array, and none for any other value. -/
def elements : Json → List Json
  | array vs => vs
  | _ => []

/-- The member of an object under a name. -/
def get? : Json → String → Option Json
  | object ms, key => Keyed.get? ms key
  | _, _ => none

/-- The value is an object with a member of that name. -/
def has (v : Json) (key : String) : Bool := (v.get? key).isSome

/-- The element of an array at an index. -/
def element? (v : Json) (i : Nat) : Option Json := v.elements[i]?

/-- An object from members in any order; of two members with one name the later one counts. -/
def ofMembers (members : List (String × Json)) : Json := object (Keyed.sort members)

/-- A natural number. -/
def nat (n : Nat) : Json := number (.int n)

/-- A value that may be absent; its absence is the null value. -/
def ofOption : Option Json → Json := fun v => v.getD null

@[simp] theorem get?_object (ms : List (String × Json)) (key : String) :
    (object ms).get? key = Keyed.get? ms key := rfl

/-- What the values of a kind look like. -/
def HasShape (v : Json) : Kind → Prop
  | .null => v = null
  | .boolean => ∃ b, v = bool b
  | .integer => ∃ i, v = number (.int i)
  | .number => ∃ x, v = number (.real x)
  | .string => ∃ text, v = string text
  | .array => ∃ elements, v = array elements
  | .object => ∃ members, v = object members

theorem is_iff (v : Json) (k : Kind) : v.is k = true ↔ v.HasShape k := by
  rcases v with _ | _ | (_ | _) | _ | _ | _ <;> cases k <;> simp [is, kind, HasShape]

end Json
end DocSchema
