/-!
# Digits and numerals

The value of a hexadecimal digit in either case, and of digits in a base.
-/
namespace DocSchema

/-- The value of a hexadecimal digit. -/
def hexValue? (c : Char) : Option Nat :=
  if '0' ≤ c ∧ c ≤ '9' then some (c.toNat - '0'.toNat)
  else if 'a' ≤ c ∧ c ≤ 'f' then some (c.toNat - 'a'.toNat + 10)
  else if 'A' ≤ c ∧ c ≤ 'F' then some (c.toNat - 'A'.toNat + 10)
  else none

/-- The number that digits of a base denote; none without digits or with another character. -/
def numeral? (base : Nat) (s : List Char) : Option Nat :=
  if s.isEmpty then none
  else s.foldl (fun sum c => do
    let n ← sum
    let d ← hexValue? c
    if d < base then some (base * n + d) else none) (some 0)

/-- The character whose code point a number of hexadecimal digits at the start of a text denote. -/
def hexChar? (count : Nat) (s : List Char) : Option Char := do
  let digits ← (s.take count).mapM hexValue?
  let n := digits.foldl (fun n d => 16 * n + d) 0
  if h : digits.length = count ∧ n.isValidChar then some (Char.ofNatAux n h.2) else none

end DocSchema
