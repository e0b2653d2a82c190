import DocSchema.Json
import DocSchema.Number.Shortest

/-!
# The JSON text of a value

There are two layouts: `Json.compact` on one line without blanks, `Json.pretty` with one member or
element a line. Members are written in the order in which the value has them.
-/
namespace DocSchema.Json

/-- A lower-case hexadecimal digit. -/
def hexDigit (n : Nat) : Char := (Nat.digitChar (n % 16))

/-- Floating-point numbers are positional from `0.00001` up to, but not including, `1e+16`. -/
def realStyle : Binary64.Style := ⟨-5, 16, true⟩

/-- How a character stands in a quoted string: quotes, backslashes and control characters are
escaped, the latter by a letter where there is one. -/
def escape (c : Char) : List Char :=
  if c = '"' then ['\\', '"']
  else if c = '\\' then ['\\', '\\']
  else if c = '\n' then ['\\', 'n']
  else if c = '\r' then ['\\', 'r']
  else if c = '\t' then ['\\', 't']
  else if c = '\x08' then ['\\', 'b']
  else if c = '\x0c' then ['\\', 'f']
  else if c.toNat < 32 then ['\\', 'u', '0', '0', hexDigit (c.toNat / 16), hexDigit c.toNat]
  else [c]

/-- A string between quotes. -/
def quote (s : String) : List Char := '"' :: (s.toList.flatMap escape ++ ['"'])

/-- The text of an integer. -/
def printInt (n : Int) : List Char :=
  if n < 0 then '-' :: Nat.toDigits 10 n.natAbs else Nat.toDigits 10 n.natAbs

/-- The text of a number. -/
def printNumber : Number → List Char
  | .int n => printInt n
  | .real x => (x.render realStyle).toList

/-- The text of a value without children; none for an array or an object. -/
def printScalar : Json → List Char
  | null => ['n', 'u', 'l', 'l']
  | bool true => ['t', 'r', 'u', 'e']
  | bool false => ['f', 'a', 'l', 's', 'e']
  | number n => printNumber n
  | string s => quote s
  | _ => []

/-! ## On one line -/

mutual

/-- The text of a value without blanks between its parts. -/
def compact : Json → List Char
  | array vs => '[' :: (compactElements vs ++ [']'])
  | object ms => '{' :: (compactMembers ms ++ ['}'])
  | v => printScalar v

/-- Elements with commas between them. -/
def compactElements : List Json → List Char
  | [] => []
  | [v] => compact v
  | v :: w :: rest => compact v ++ ',' :: compactElements (w :: rest)

/-- Members with commas between them. -/
def compactMembers : List (String × Json) → List Char
  | [] => []
  | [(k, v)] => quote k ++ ':' :: compact v
  | (k, v) :: m :: rest => quote k ++ ':' :: compact v ++ ',' :: compactMembers (m :: rest)

end

/-! ## One child a line -/

/-- The start of a line at a depth: two spaces for each level. -/
def indentation (depth : Nat) : List Char := '\n' :: List.replicate (2 * depth) ' '

mutual

/-- The text of a value that stands at a depth; an empty array or object stays on its line. -/
def prettyAt (depth : Nat) : Json → List Char
  | array [] => ['[', ']']
  | array (v :: vs) => '[' :: (prettyElements (depth + 1) (v :: vs) ++ indentation depth ++ [']'])
  | object [] => ['{', '}']
  | object (m :: ms) => '{' :: (prettyMembers (depth + 1) (m :: ms) ++ indentation depth ++ ['}'])
  | v => printScalar v

/-- Elements, each on its own line. -/
def prettyElements (depth : Nat) : List Json → List Char
  | [] => []
  | [v] => indentation depth ++ prettyAt depth v
  | v :: w :: rest =>
    indentation depth ++ prettyAt depth v ++ ',' :: prettyElements depth (w :: rest)

/-- Members, each on its own line. -/
def prettyMembers (depth : Nat) : List (String × Json) → List Char
  | [] => []
  | [(k, v)] => indentation depth ++ quote k ++ ':' :: ' ' :: prettyAt depth v
  | (k, v) :: m :: rest =>
    indentation depth ++ quote k ++ ':' :: ' ' :: prettyAt depth v ++
      ',' :: prettyMembers depth (m :: rest)

end

/-- The text of a value on one line. -/
def toCompact (v : Json) : String := String.ofList v.compact

/-- The text of a value over several lines. -/
def toPretty (v : Json) : String := String.ofList (prettyAt 0 v)

end DocSchema.Json
