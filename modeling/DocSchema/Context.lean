import DocSchema.Json
import DocSchema.Pattern

/-!
# What checks record

While a document is validated, checks record values under names, sorted by name. A check sees what
the checks before it recorded.
-/
namespace DocSchema

/-- The values recorded so far. -/
structure Context where
  entries : List (String × Json) := []
deriving Inhabited

namespace Context

/-- Nothing is recorded yet. -/
def empty : Context := {}

/-- The recorded names in order. -/
def keys (c : Context) : List String := Keyed.keys c.entries

/-- The number of recorded values. -/
def size (c : Context) : Nat := c.entries.length

/-- Nothing is recorded. -/
def isEmpty (c : Context) : Bool := c.entries.isEmpty

/-- The value recorded under a name. -/
def get? (c : Context) (key : String) : Option Json := Keyed.get? c.entries key

/-- A value is recorded under the name. -/
def contains (c : Context) (key : String) : Bool := (c.get? key).isSome

/-- Records a value, in place of an earlier one under the name. -/
def insert (c : Context) (key : String) (value : Json) : Context :=
  ⟨Keyed.insert c.entries key value⟩

/-- Removes what is recorded under a name. -/
def erase (c : Context) (key : String) : Context := ⟨Keyed.erase c.entries key⟩

/-- Records a value unless there is one under the name; the value that is there then. -/
def getOrInsert (c : Context) (key : String) (value : Json) : Json × Context :=
  match c.get? key with
  | some v => (v, c)
  | none => (value, c.insert key value)

/-- The record as an object. -/
def toJson (c : Context) : Json := .object c.entries

end Context

/-- A check decides about a value; it sees what was recorded before and may record more. -/
abbrev Check := Json → Context → Bool × Context

namespace Check

/-- A check that neither reads nor writes the record. -/
def ofPredicate (p : Json → Bool) : Check := fun v c => (p v, c)

/-- A value that is a text in which the pattern occurs. -/
def matching (p : Pattern) : Check := ofPredicate fun v => v.text?.any p.occursIn

end Check
end DocSchema
