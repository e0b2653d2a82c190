import DocSchema.Text.Property

/-!
# Regular expressions over characters

An expression is searched for in a text. A set of places in the text is a list of marks, one
before each character and one at the end. What an expression means is a function on marks: the
places where its matches end, from the places where they may begin. Since only the existence of a
match matters, no order among matches is kept.
-/
namespace DocSchema

/-- Conditions on a place in a text. -/
inductive Look where
  | textStart | textEnd
  | lineStart (carriage : Bool) | lineEnd (carriage : Bool)
  | boundary (word : CharSet) | noBoundary (word : CharSet)
  | wordStart (word : CharSet) | wordEnd (word : CharSet)
  | beforeWord (word : CharSet) | afterWord (word : CharSet)

/-- The condition holds between two characters, either of which may be missing. -/
def Look.holds : Look → Option Char → Option Char → Bool
  | textStart, before, _ => before.isNone
  | textEnd, _, after => after.isNone
  | lineStart false, before, _ => before.isNone || before = some '\n'
  | lineStart true, before, after =>
    before.isNone || before = some '\n' || (before = some '\r' && after ≠ some '\n')
  | lineEnd false, _, after => after.isNone || after = some '\n'
  | lineEnd true, before, after =>
    after.isNone || after = some '\r' || (after = some '\n' && before ≠ some '\r')
  | boundary w, before, after => before.any w.has != after.any w.has
  | noBoundary w, before, after => before.any w.has == after.any w.has
  | wordStart w, before, after => !before.any w.has && after.any w.has
  | wordEnd w, before, after => before.any w.has && !after.any w.has
  | beforeWord w, before, _ => !before.any w.has
  | afterWord w, _, after => !after.any w.has

/-- A regular expression. -/
inductive Expr where
  /-- Matches the empty text. -/
  | empty
  /-- Matches one character of a set. -/
  | one (set : CharSet)
  /-- Matches the empty text where a condition holds. -/
  | look (condition : Look)
  | seq (first second : Expr)
  | alt (left right : Expr)
  /-- At least `least` matches in a row, and at most `most` if there is a bound. -/
  | times (body : Expr) (least : Nat) (most : Option Nat)

namespace Expr

/-- Marks on the places of a text. -/
abbrev Marks := List Bool

/-- The places marked in either list. -/
def join (m m' : Marks) : Marks := List.zipWith (· || ·) m m'

/-- The places after the characters of a set that begin at marked places. -/
def advance (s : CharSet) (text : List Char) (m : Marks) : Marks :=
  false :: List.zipWith (fun c marked => marked && s.has c) text m

/-- The marked places where a condition holds. -/
def keep (l : Look) (text : List Char) (m : Marks) : Marks :=
  List.zipWith (fun around marked => marked && l.holds around.1 around.2)
    ((none :: text.map some).zip (text.map some ++ [none])) m

/-- Applies a step a number of times. -/
def iterate (step : Marks → Marks) : Nat → Marks → Marks
  | 0, m => m
  | n + 1, m => iterate step n (step m)

/-- The places reached by at most a number of steps. -/
def reachWithin (step : Marks → Marks) : Nat → Marks → Marks
  | 0, m => m
  | n + 1, m =>
    let m' := join m (step m)
    if m' = m then m else reachWithin step n m'

/-- The places where matches end that begin at marked places. Repetitions beyond the number of
places add nothing: a longer row of matches repeats an empty one. -/
def reach (text : List Char) : Expr → Marks → Marks
  | empty, m => m
  | one s, m => advance s text m
  | look l, m => keep l text m
  | seq a b, m => reach text b (reach text a m)
  | alt a b, m => join (reach text a m) (reach text b m)
  | times a least most, m =>
    let places := text.length + 1
    let extra := match most with
      | none => places
      | some n => min (n - least) places
    reachWithin (reach text a) extra (iterate (reach text a) (min least places) m)

/-- Some part of the text matches. -/
def search (e : Expr) (text : List Char) : Bool :=
  (reach text e (List.replicate (text.length + 1) true)).any id

/-! ## Sizes -/

/-- The expression matches nothing but the empty text. -/
def zeroWidth : Expr → Bool
  | empty => true
  | one _ => false
  | look _ => true
  | seq a b => a.zeroWidth && b.zeroWidth
  | alt a b => a.zeroWidth && b.zeroWidth
  | times a _ most => a.zeroWidth || most = some 0

/-- The memory that an automaton for the expression would take, in bytes: one state for each
character set and branch, copied for each counted repetition. -/
def weight : Expr → Nat
  | empty => 32
  | one s =>
    let ranges := (s.bounds.length + 1) / 2
    if s.bounds.all (· ≤ 128) then 32 + (if ranges ≤ 1 then 0 else 8 * ranges) else 32 + 96 * ranges
  | look _ => 32
  | seq a b => a.weight + b.weight
  | alt a b => a.weight + b.weight + 40
  | times a least none => a.weight * max least 1 + 40
  | times a least (some most) => a.weight * least + (a.weight + 40) * (most - least)

/-- The greatest weight that is accepted. -/
def maxWeight : Nat := 10485760

end Expr
end DocSchema
