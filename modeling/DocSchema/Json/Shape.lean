import DocSchema.Json.Reader

/-!
# Reading values of a known shape

A record is an object with named fields in any order, in which unknown members mean nothing and no
field occurs twice, or an array of all fields in order.
-/
namespace DocSchema.Json.Shape
open DocSchema.Json.Reader

/-- A reader of one value. -/
abbrev Read (α : Type) := List Char → Result α

/-- The value has another shape. -/
def mismatch {α : Type} (s : List Char) : Result α := atNext .expectedValue s

/-- A string. -/
def text : Read String := fun s =>
  match skipBlanks s with
  | '"' :: s => Reader.string s
  | s => mismatch s

/-- A truth value. -/
def flag : Read Bool := fun s =>
  match skipBlanks s with
  | 't' :: s => word true ['r', 'u', 'e'] s
  | 'f' :: s => word false ['a', 'l', 's', 'e'] s
  | s => mismatch s

/-- The text of any value, which is passed over. -/
def raw : Read (List Char) := fun s =>
  (skip s).map fun (_, rest) => (s.take (s.length - rest.length), rest)

/-- A natural number below `2 ^ 64`. -/
def natural : Read Nat := fun s =>
  match skipBlanks s with
  | c :: s =>
    if c = '-' ∨ c.isDigit then
      match Reader.number (c :: s) with
      | .ok (.int (.ofNat n), rest) => .ok (n, rest)
      | .ok (_, rest) => mismatch rest
      | .error stop => .error stop
    else mismatch (c :: s)
  | [] => mismatch []

/-- A value that may be null. -/
def optional {α : Type} (read : Read α) : Read (Option α) := fun s =>
  match skipBlanks s with
  | 'n' :: s => word none ['u', 'l', 'l'] s
  | s => (read s).map fun (v, rest) => (some v, rest)

/-- A list of values. -/
def many {α : Type} (read : Read α) : Read (List α) := fun s =>
  match skipBlanks s with
  | '[' :: s => list read s
  | s => mismatch s

/-- One of several names, alone or as the only member of an object with the value null. -/
def name {α : Type} (ofName? : String → Option α) : Read α := fun s =>
  match skipBlanks s with
  | '"' :: s =>
    match Reader.string s with
    | .ok (n, rest) =>
      match ofName? n with
      | some v => .ok (v, rest)
      | none => mismatch rest
    | .error stop => .error stop
  | '\x7b' :: s =>
    match record (fun key s => match skipBlanks s with
        | 'n' :: s => word key ['u', 'l', 'l'] s
        | s => mismatch s) s with
    | .ok ([n], rest) =>
      match ofName? n with
      | some v => .ok (v, rest)
      | none => mismatch rest
    | .ok (_, rest) => mismatch rest
    | .error stop => .error stop
  | s => mismatch s

/-- A field of a record: its name and how its value is read. -/
abbrev FieldReader (α : Type) := String × Read α

/-- A member of a record: the value of a field under its name, or nothing for an unknown name. -/
def member {α : Type} (fields : List (FieldReader α)) (key : String) :
    Read (Option (String × α)) := fun s =>
  match fields.find? (·.1 = key) with
  | some (_, read) => (read s).map fun (v, rest) => (some (key, v), rest)
  | none => (skip s).map fun (_, rest) => (none, rest)

/-- The values of all fields in order, where a field may be missing; none if a field occurs
twice. -/
def gather {α : Type} (members : List (String × α)) : List String → Option (List (Option α))
  | [] => some []
  | key :: keys =>
    match members.filter (·.1 = key) with
    | [] => (gather members keys).map (none :: ·)
    | [(_, v)] => (gather members keys).map (some v :: ·)
    | _ => none

/-- The elements of an array of all fields in order, after its opening bracket or after the first
elements. -/
def inOrder {α : Type} (first : Bool) : List (FieldReader α) → Read (List (Option α))
  | [], s =>
    match skipBlanks s with
    | ']' :: rest => .ok ([], rest)
    | s => mismatch s
  | (_, read) :: fields, s =>
    let next (s : List Char) : Result (List (Option α)) :=
      match read s with
      | .ok (v, rest) => (inOrder false fields rest).map fun (vs, rest) => (some v :: vs, rest)
      | .error stop => .error stop
    if first then next s
    else match skipBlanks s with
      | ',' :: s => next s
      | s => mismatch s

/-- A record as the values of its fields in order, where a field may be missing. -/
def fields {α : Type} (shape : List (FieldReader α)) : Read (List (Option α)) := fun s =>
  match skipBlanks s with
  | '\x7b' :: s =>
    match record (member shape) s with
    | .ok (members, rest) =>
      match gather (members.filterMap id) (shape.map Prod.fst) with
      | some vs => .ok (vs, rest)
      | none => mismatch rest
    | .error stop => .error stop
  | '[' :: s => inOrder true shape s
  | s => mismatch s

/-- What a reader makes of the whole of a text; none if the text has a fault or another shape. -/
def all? {α : Type} (read : Read α) (s : List Char) : Option α :=
  match (read s).bind finish with
  | .ok v => some v
  | .error _ => none

/-- The value of a whole text; none if the text has a fault or another shape. -/
def ofText? {α : Type} (read : Read α) (s : String) : Option α := all? read s.toList

end DocSchema.Json.Shape
