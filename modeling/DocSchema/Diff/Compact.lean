import DocSchema.Diff.Script

/-!
# Tidying an edit script

Insertions slide along kept ranges whose elements they repeat, edits of one kind that come to
stand next to each other are merged, and what remains is read as blocks, each kept or replaced. An
edit that changes places with another one keeps the positions that it was found at.
-/
namespace DocSchema.Diff
variable {α : Type} [DecidableEq α]

namespace Edit

/-- The elements of an edit in the old list. -/
def oldPart (old : List α) (e : Edit) : List α :=
  if e.kind = .insert then [] else (old.drop e.old).take e.size

/-- The elements of an edit in the new list. -/
def newPart (new : List α) (e : Edit) : List α :=
  if e.kind = .delete then [] else (new.drop e.new).take e.size

/-- The same range further up. -/
def up (e : Edit) (n : Nat) : Edit := { e with old := e.old - n, new := e.new - n }

/-- The same range further down. -/
def down (e : Edit) (n : Nat) : Edit := { e with old := e.old + n, new := e.new + n }

/-- The range with more elements at its end. -/
def longer (e : Edit) (n : Nat) : Edit := { e with size := e.size + n }

/-- The range without some elements at its end. -/
def shorter (e : Edit) (n : Nat) : Edit := { e with size := e.size - n }

end Edit

/-- An edit in front of others, unless it is empty. -/
def consNonempty (e : Edit) (es : List Edit) : List Edit := if e.size = 0 then es else e :: es

/-- The elements and the edits of a script. -/
def weight (es : List Edit) : Nat := es.foldr (fun e n => e.size + 1 + n) 0

/-! ## Sliding -/

/-- An edit in a script, with the edits above it, nearest first, and those below it. -/
structure Cursor where
  above : List Edit
  edit : Edit
  below : List Edit

/-- Adds elements of a kept range to the start of what is below. -/
def keepBelow (kept : Edit) : List Edit → List Edit
  | [] => [kept]
  | e :: es => if e.kind = .keep then (e.up kept.size).longer kept.size :: es else kept :: e :: es

/-- Adds elements of a kept range to the end of what is above. -/
def keepAbove (kept : Edit) : List Edit → List Edit
  | [] => [kept]
  | e :: es => if e.kind = .keep then e.longer kept.size :: es else kept :: e :: es

/-- Slides an edit up as far as possible. -/
def slideUp (old new : List α) : Cursor → Cursor
  | ⟨[], edit, below⟩ => ⟨[], edit, below⟩
  | ⟨e :: above, edit, below⟩ =>
    if e.kind = edit.kind then slideUp old new ⟨above, e.longer edit.size, below⟩
    else if e.kind = .keep then
      let n := commonSuffix (e.oldPart old) (edit.newPart new)
      if 0 < n ∧ n ≤ e.size then
        let kept : Edit := ⟨.keep, e.old + e.size - n, edit.new + edit.size - n, n⟩
        slideUp old new ⟨consNonempty (e.shorter n) above, edit.up n, keepBelow kept below⟩
      else ⟨e :: above, edit, below⟩
    else slideUp old new ⟨above, edit, e :: below⟩
termination_by c => weight c.above
decreasing_by
  all_goals
    simp only [weight, List.foldr_cons, consNonempty, Edit.shorter]
    grind

/-- Slides an edit down as far as possible. -/
def slideDown (old new : List α) : Cursor → Cursor
  | ⟨above, edit, []⟩ => ⟨above, edit, []⟩
  | ⟨above, edit, e :: below⟩ =>
    if e.kind = edit.kind then slideDown old new ⟨above, edit.longer e.size, below⟩
    else if e.kind = .keep then
      let n := commonPrefix (e.oldPart old) (edit.newPart new)
      if 0 < n ∧ n ≤ e.size then
        let kept : Edit := ⟨.keep, e.old, edit.new, n⟩
        slideDown old new
          ⟨keepAbove kept above, edit.down n, consNonempty ((e.down n).shorter n) below⟩
      else ⟨above, edit, e :: below⟩
    else slideDown old new ⟨e :: above, edit, below⟩
termination_by c => weight c.below
decreasing_by
  all_goals
    simp only [weight, List.foldr_cons, consNonempty, Edit.shorter, Edit.down]
    grind

/-- Slides every edit of a kind, from the first to the last. The bound limits the number of
edits. -/
def slideAll (kind : EditKind) (old new : List α) (above : List Edit) : Nat → List Edit → List Edit
  | 0, es => above.reverse ++ es
  | _, [] => above.reverse
  | bound + 1, e :: es =>
    if e.kind = kind then
      let c := slideDown old new (slideUp old new ⟨above, e, es⟩)
      slideAll kind old new (c.edit :: c.above) bound c.below
    else slideAll kind old new (e :: above) bound es

/-- A script after its deletions and then its insertions slid. A script has no more edits than
the two lists have elements. -/
def compact (old new : List α) (es : List Edit) : List Edit :=
  let bound := 2 * (old.length + new.length) + 1
  slideAll .insert old new [] bound (slideAll .delete old new [] bound es)

/-! ## Blocks -/

/-- A range of the old list and the range of the new list that it became. -/
structure Block where
  kept : Bool
  old : Nat
  oldSize : Nat
  new : Nat
  newSize : Nat
deriving DecidableEq, Repr

/-- The sum of the sizes of edits. -/
def totalSize (es : List Edit) : Nat := es.foldr (fun e n => e.size + n) 0

/-- The block of kept ranges or of changes that follow one another. Where something is both deleted
and inserted, deletions tell the place in the old list and insertions that in the new one. -/
def Block.ofEdits (es : List Edit) : List Block :=
  let kept := es.filter (·.kind = .keep)
  let deleted := es.filter (·.kind = .delete)
  let inserted := es.filter (·.kind = .insert)
  match kept, deleted, inserted with
  | k :: _, _, _ => [⟨true, k.old, totalSize kept, k.new, totalSize kept⟩]
  | [], d :: _, i :: _ => [⟨false, d.old, totalSize deleted, i.new, totalSize inserted⟩]
  | [], d :: _, [] => [⟨false, d.old, totalSize deleted, d.new, 0⟩]
  | [], [], i :: _ => [⟨false, i.old, 0, i.new, totalSize inserted⟩]
  | [], [], [] => []

/-- The blocks of a script: kept and changed ranges by turns. -/
def blocks (es : List Edit) : List Block :=
  (es.splitBy fun a b => (a.kind = .keep) == (b.kind = .keep)).flatMap Block.ofEdits

/-- The blocks between two lists. -/
def compare (old new : List α) : List Block := blocks (compact old new (script old new))

end DocSchema.Diff
