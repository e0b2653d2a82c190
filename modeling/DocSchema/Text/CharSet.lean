/-!
# Sets of characters

A set is given by the code points at which membership changes. One merge of two lists of bounds
serves every combination of two sets, for any condition on the two memberships.
-/
namespace DocSchema

/-- A set of code points as its bounds in increasing order: below the first one nothing is in the
set, and each bound turns membership around. -/
structure CharSet where
  bounds : List Nat
deriving DecidableEq, Repr

namespace CharSet

/-- Membership of a code point, from the membership below the first bound. -/
def inside (below : Bool) : List Nat → Nat → Bool
  | [], _ => below
  | b :: bs, n => if n < b then below else inside (!below) bs n

/-- The code point is in the set. -/
def contains (s : CharSet) (n : Nat) : Bool := inside false s.bounds n

/-- The character is in the set. -/
def has (s : CharSet) (c : Char) : Bool := s.contains c.toNat

/-- The set without members. -/
def empty : CharSet := ⟨[]⟩

/-- The set of all code points. -/
def full : CharSet := ⟨[0]⟩

/-- The code points from `low` up to and including `high`. -/
def range (low high : Nat) : CharSet := if low ≤ high then ⟨[low, high + 1]⟩ else empty

/-- The set of one character. -/
def single (c : Char) : CharSet := range c.toNat c.toNat

/-- Puts a bound in front if membership changes there. -/
def bound (changes : Bool) (point : Nat) (rest : List Nat) : List Nat :=
  if changes then point :: rest else rest

/-- The bounds of a combination, from the membership in both sets below their first bounds. -/
def merge (f : Bool → Bool → Bool) (a b : Bool) : List Nat → List Nat → List Nat
  | [], [] => []
  | x :: xs, [] => bound (f a b != f (!a) b) x (merge f (!a) b xs [])
  | [], y :: ys => bound (f a b != f a (!b)) y (merge f a (!b) [] ys)
  | x :: xs, y :: ys =>
    if x < y then bound (f a b != f (!a) b) x (merge f (!a) b xs (y :: ys))
    else if y < x then bound (f a b != f a (!b)) y (merge f a (!b) (x :: xs) ys)
    else bound (f a b != f (!a) (!b)) x (merge f (!a) (!b) xs ys)
termination_by xs ys => xs.length + ys.length

/-- The code points whose membership in two sets satisfies a condition that fails outside both. -/
def combine (f : Bool → Bool → Bool) (s t : CharSet) : CharSet :=
  ⟨merge f false false s.bounds t.bounds⟩

/-- The members of either set. -/
def union (s t : CharSet) : CharSet := combine (· || ·) s t

/-- The members of both sets. -/
def inter (s t : CharSet) : CharSet := combine (· && ·) s t

/-- The members of the first set that are not in the second. -/
def diff (s t : CharSet) : CharSet := combine (fun a b => a && !b) s t

/-- The members of exactly one of two sets. -/
def symmDiff (s t : CharSet) : CharSet := combine (· != ·) s t

/-- The code points that are not in a set. -/
def compl (s : CharSet) : CharSet := diff full s

/-- The members of any of several sets. -/
def unions (sets : List CharSet) : CharSet := sets.foldl union empty

/-- The set of some characters. -/
def ofList (cs : List Char) : CharSet := unions (cs.map single)

/-! ## Sets in tables -/

/-- The value of a digit in base 36. -/
def digit36 (c : Char) : Nat := if c.isDigit then c.toNat - '0'.toNat else c.toNat - 'a'.toNat + 10

/-- The bounds of a set from the distances between them, which are numbers in base 36 with a blank
after each. -/
def decode (last sum : Nat) : List Char → List Nat
  | [] => [last + sum]
  | c :: cs =>
    if c = ' ' then (last + sum) :: decode (last + sum) 0 cs
    else decode last (36 * sum + digit36 c) cs

/-- The set of a table entry, which may have several lines. -/
def ofTable (lines : List String) : CharSet := ⟨decode 0 0 (lines.flatMap String.toList)⟩

end CharSet
end DocSchema
