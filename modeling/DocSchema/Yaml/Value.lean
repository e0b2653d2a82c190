import DocSchema.Json.Printer
import DocSchema.Number.Extended
import DocSchema.Yaml.Node

/-!
# The values of a YAML document

What a plain scalar stands for is decided by its form: null, the booleans, integers in four bases,
floating-point numbers, and texts for all else. Tags of the core types overrule the form; other
local tags stay around their value.
-/
namespace DocSchema.Yaml

/-- A value. The pairs of a mapping have different keys. -/
inductive Value where
  | null
  | bool (b : Bool)
  | int (n : Int)
  | real (x : Extended)
  | string (s : String)
  | sequence (items : List Value)
  | mapping (pairs : List (Value × Value))
  | tagged (tag : String) (value : Value)
deriving Repr, Inhabited

/-! ## What a plain scalar stands for -/

/-- The spellings of null, an empty scalar apart. -/
def isNull (s : String) : Bool := ["null", "Null", "NULL", "~"].contains s

/-- The spellings of the booleans. -/
def bool? (s : String) : Option Bool :=
  if ["true", "True", "TRUE"].contains s then some true
  else if ["false", "False", "FALSE"].contains s then some false
  else none

/-- Digits after a leading zero are no number. -/
def isPaddedNumber (s : List Char) : Bool :=
  match (match s with
    | '-' :: s => s
    | '+' :: s => s
    | s => s) with
  | '0' :: d :: rest => (d :: rest).all Char.isDigit
  | _ => false

/-- The magnitude of an integer in one of four bases. A padded decimal number is none. -/
def magnitude? (padded : Bool) (s : List Char) : Option Nat :=
  let based (base : Nat) (rest : List Char) : Option Nat := numeral? base rest
  match s with
  | '0' :: 'x' :: rest => based 16 rest
  | '0' :: 'o' :: rest => based 8 rest
  | '0' :: 'b' :: rest => based 2 rest
  | s => if padded then none else based 10 s

/-- An integer of any size. -/
def integer? (s : List Char) : Option Int :=
  match s with
  | '-' :: rest => (magnitude? (isPaddedNumber s) rest).map fun n => -(n : Int)
  | '+' :: rest => (magnitude? (isPaddedNumber s) rest).map Int.ofNat
  | s => (magnitude? (isPaddedNumber s) s).map Int.ofNat

/-- The exponent of a decimal number, or zero if there is none. -/
def exponent? (s : List Char) : Option Int :=
  match s with
  | [] => some 0
  | c :: rest =>
    if c ≠ 'e' ∧ c ≠ 'E' then none
    else match rest with
      | '-' :: ds => (numeral? 10 ds).map fun n => -(n : Int)
      | '+' :: ds => (numeral? 10 ds).map Int.ofNat
      | ds => (numeral? 10 ds).map Int.ofNat

/-- An unsigned decimal number with a point or an exponent, if it is finite. -/
def decimal? (negative : Bool) (s : List Char) : Option Binary64 := do
  let whole := s.takeWhile Char.isDigit
  let (fraction, rest) := match s.dropWhile Char.isDigit with
    | '.' :: rest => (rest.takeWhile Char.isDigit, rest.dropWhile Char.isDigit)
    | rest => ([], rest)
  let digits ← numeral? 10 (whole ++ fraction)
  let power ← exponent? rest
  Binary64.ofDecimal negative digits (power - fraction.length)

/-- A floating-point number: a decimal number, or a spelling of an infinity or of no number. -/
def real? (s : String) : Option Extended :=
  if [".inf", ".Inf", ".INF", "+.inf", "+.Inf", "+.INF"].contains s then some (.infinite false)
  else if ["-.inf", "-.Inf", "-.INF"].contains s then some (.infinite true)
  else if [".nan", ".NaN", ".NAN"].contains s then some .notANumber
  else match s.toList with
    | '-' :: rest => (decimal? true rest).map .finite
    | '+' :: rest => (decimal? false rest).map .finite
    | rest => (decimal? false rest).map .finite

/-- An integer as a value. One of more than 64 bits is a fault. -/
def Value.ofInt (n : Int) : Option Value :=
  if Int64.minValue.toInt ≤ n ∧ n < UInt64.size then some (.int n) else none

/-- The value of a plain scalar. An integer that does not fit 128 bits is read as a floating-point
number. -/
def plainValue (s : String) : Option Value :=
  if s = "" ∨ isNull s then some .null
  else match bool? s with
    | some b => some (.bool b)
    | none =>
      match (integer? s.toList).filter fun n =>
        -Int.ofNat (Nat.pow 2 127) ≤ n ∧ n < Nat.pow 2 128 with
      | some n => Value.ofInt n
      | none =>
        match if isPaddedNumber s.toList then none else real? s with
        | some x => some (.real x)
        | none => some (.string s)

/-! ## Tags -/

/-- What the tags of the core types start with. -/
def coreTag (name : String) : String := "tag:yaml.org,2002:" ++ name

/-- A tag that starts with an exclamation mark, without it. -/
def localTag? (tag : Option String) : Option String := do
  match (← tag).toList with
  | '!' :: rest => some (String.ofList rest)
  | _ => none

/-- The value of a scalar with a tag that is not local. -/
def scalarValue (tag : Option String) (text : String) (plain : Bool) : Option Value :=
  match tag with
  | none => if plain then plainValue text else some (.string text)
  | some tag =>
    if tag = coreTag "bool" then (bool? text).map .bool
    else if tag = coreTag "int" then (integer? text.toList).bind Value.ofInt
    else if tag = coreTag "float" then (real? text).map .real
    else if tag = coreTag "null" then if isNull text then some .null else none
    else some (.string text)

/-! ## Equal keys -/

mutual

/-- Two values are the same key; the order of pairs does not matter. -/
def same : Value → Value → Bool
  | .null, .null => true
  | .bool a, .bool b => a = b
  | .int a, .int b => a = b
  | .real (.finite a), .real (.finite b) => a = b || (a.isZero && b.isZero)
  | .real a, .real b => a = b
  | .string a, .string b => a = b
  | .sequence as, .sequence bs => sameItems as bs
  | .mapping as, .mapping bs => as.length = bs.length && samePairs as bs
  | .tagged s a, .tagged t b => s = t && same a b
  | _, _ => false

/-- The same items in the same order. -/
def sameItems : List Value → List Value → Bool
  | [], [] => true
  | a :: as, b :: bs => same a b && sameItems as bs
  | _, _ => false

/-- Each pair occurs in a list of pairs. -/
def samePairs : List (Value × Value) → List (Value × Value) → Bool
  | [], _ => true
  | (k, v) :: as, bs => bs.any (fun b => same k b.1 && same v b.2) && samePairs as bs

end

/-! ## Values of nodes -/

/-- The levels of collections that a document may nest. -/
def maxNesting : Nat := 128

/-- Replaces aliases by what they stand for. A collection that contains itself nests too deeply, and
the number of replacements has a bound. -/
def expand (d : Document) : Nat → Node → StateT Nat Option Node
  | levels, n => do
    let n ← match n with
      | .alias number => do
        modify (· + 1)
        if 100 * d.events < (← get) then failure
        match d.targets.find? (·.1 = number) with
        | some (_, target) => pure target
        | none => failure
      | n => pure n
    match n, levels with
    | .scalar .., _ => return n
    | .sequence tag items, levels + 1 => return .sequence tag (← items.mapM (expand d levels))
    | .mapping tag pairs, levels + 1 =>
      return .mapping tag (← pairs.mapM fun (k, v) => do
        return (← expand d levels k, ← expand d levels v))
    | _, _ => failure

/-- The root of a document without aliases; an empty node if the text has no document. -/
def Document.tree? (d : Document) : Option Node :=
  match d.root with
  | none => some .empty
  | some root => ((expand d maxNesting root).run 0).map Prod.fst

mutual

/-- The value of a node without aliases. -/
def Value.ofNode? : Node → Option Value
  | .alias _ => none
  | .scalar tag text plain =>
    match localTag? tag with
    | some name =>
      if name = "" then none
      else ((if plain then plainValue text else some (.string text)).map (.tagged name))
    | none => scalarValue tag text plain
  | .sequence tag items =>
    match localTag? tag, Value.ofNodes? items with
    | some name, some vs => if name = "" then none else some (.tagged name (.sequence vs))
    | none, some vs => some (.sequence vs)
    | _, none => none
  | .mapping tag pairs =>
    match localTag? tag, Value.ofPairs? [] pairs with
    | some name, some ps => if name = "" then none else some (.tagged name (.mapping ps))
    | none, some ps => some (.mapping ps)
    | _, none => none

/-- The values of nodes. -/
def Value.ofNodes? : List Node → Option (List Value)
  | [] => some []
  | n :: ns => do
    let v ← Value.ofNode? n
    let vs ← Value.ofNodes? ns
    some (v :: vs)

/-- The pairs of a mapping; a key that was met before is a fault. -/
def Value.ofPairs? (met : List Value) : List (Node × Node) → Option (List (Value × Value))
  | [] => some []
  | (k, v) :: rest => do
    let key ← Value.ofNode? k
    if met.any (same key) then none
    let value ← Value.ofNode? v
    let more ← Value.ofPairs? (key :: met) rest
    some ((key, value) :: more)

end

/-- The value of a YAML text. -/
def ofText? (text : String) : Option Value := do Value.ofNode? (← (← document? text).tree?)

/-! ## As document values -/

/-- Why a key cannot be the name of a member. -/
inductive KeyFault where
  | notString
  | notFinite
deriving DecidableEq, Repr

/-- The fault in words. -/
def KeyFault.message : KeyFault → String
  | notString => "key must be a string"
  | notFinite => "float key must be finite (got NaN or +/-inf)"

/-- The member name of a key. -/
def memberName : Value → Except KeyFault String
  | .string s => .ok s
  | .bool b => .ok (if b then "true" else "false")
  | .int n => .ok (String.ofList (Json.printInt n))
  | .real (.finite x) => .ok (x.render Json.realStyle)
  | .real _ => .error .notFinite
  | _ => .error .notString

mutual

/-- A value as a document value: a tag becomes the name of an only member, and a number that is not
finite becomes null. -/
def Value.toJson : Value → Except KeyFault Json
  | .null => .ok .null
  | .bool b => .ok (.bool b)
  | .int n => .ok (.number (.int n))
  | .real (.finite x) => .ok (.number (.real x))
  | .real _ => .ok .null
  | .string s => .ok (.string s)
  | .sequence items => (Value.toJsonList items).map .array
  | .mapping pairs => (Value.toMembers pairs).map Json.ofMembers
  | .tagged tag v => (Value.toJson v).map fun j => .object [("!" ++ tag, j)]

/-- Values as document values. -/
def Value.toJsonList : List Value → Except KeyFault (List Json)
  | [] => .ok []
  | v :: vs => do
    let j ← Value.toJson v
    let js ← Value.toJsonList vs
    .ok (j :: js)

/-- Pairs as members. -/
def Value.toMembers : List (Value × Value) → Except KeyFault (List (String × Json))
  | [] => .ok []
  | (k, v) :: rest => do
    let name ← memberName k
    let j ← Value.toJson v
    let more ← Value.toMembers rest
    .ok ((name, j) :: more)

end

end DocSchema.Yaml
