/-!
# Edit scripts between two lists

A script names ranges of the two lists in order: kept, deleted from the old list, or inserted into
the new one. It is found by meeting in the middle: paths of deletions and insertions grow from
both corners of the grid that the two lists span, and where they overlap the lists are split and
treated in two parts.
-/
namespace DocSchema.Diff

/-- What happens to a range of elements. -/
inductive EditKind where
  | keep | delete | insert
deriving DecidableEq, Repr

/-- A range of elements: where it begins in the old and in the new list, and its size. A
deletion has no elements in the new list and an insertion none in the old one. -/
structure Edit where
  kind : EditKind
  old : Nat
  new : Nat
  size : Nat
deriving DecidableEq, Repr

variable {α : Type} [DecidableEq α]

/-- The length of the common start of two lists. -/
def commonPrefix : List α → List α → Nat
  | a :: as, b :: bs => if a = b then commonPrefix as bs + 1 else 0
  | _, _ => 0

/-- The length of the common end of two lists. -/
def commonSuffix (as bs : List α) : Nat := commonPrefix as.reverse bs.reverse

theorem commonPrefix_le_left (as bs : List α) : commonPrefix as bs ≤ as.length := by
  fun_induction commonPrefix as bs with
  | case1 _ _ _ ih => exact Nat.succ_le_succ ih
  | case2 => exact Nat.zero_le _
  | case3 => exact Nat.zero_le _

theorem commonPrefix_le_right (as bs : List α) : commonPrefix as bs ≤ bs.length := by
  fun_induction commonPrefix as bs with
  | case1 _ _ _ ih => exact Nat.succ_le_succ ih
  | case2 => exact Nat.zero_le _
  | case3 => exact Nat.zero_le _

theorem take_commonPrefix (as bs : List α) :
    as.take (commonPrefix as bs) = bs.take (commonPrefix as bs) := by
  fun_induction commonPrefix as bs with
  | case1 _ _ _ ih => rw [List.take_succ_cons, List.take_succ_cons, ih]
  | case2 => rw [List.take_zero, List.take_zero]
  | case3 => rw [List.take_zero, List.take_zero]

/-! ## Meeting in the middle -/

/-- How far the paths from a corner reach on each diagonal. -/
structure Reach where
  /-- The place of the main diagonal. -/
  center : Nat
  values : Array Nat

namespace Reach

/-- Nothing is reached yet, on so many diagonals on either side. -/
def start (center : Nat) : Reach := ⟨center, Array.replicate (2 * center + 1) 0⟩

/-- The reach on a diagonal. -/
def get (r : Reach) (k : Int) : Nat := r.values.getD (k + r.center).toNat 0

/-- Sets the reach on a diagonal. -/
def put (r : Reach) (k : Int) (x : Nat) : Reach :=
  { r with values := r.values.setIfInBounds (k + r.center).toNat x }

/-- Where a path of `d` steps comes to a diagonal: from the next one or from the one before. -/
def enter (r : Reach) (d : Nat) (k : Int) : Nat :=
  if k = -d ∨ (k ≠ d ∧ r.get (k - 1) < r.get (k + 1)) then r.get (k + 1) else r.get (k - 1) + 1

end Reach

/-- The diagonals of paths of `d` steps, from the last to the first. -/
def diagonals (d : Nat) : List Int := (List.range (d + 1)).map fun i : Nat => (d : Int) - 2 * i

/-- A run of equal elements on a diagonal: where it begins and ends. -/
structure Run where
  x : Nat
  y : Nat
  size : Nat

/-- Lengthens paths to `d` steps on some diagonals and follows equal elements; stops at the
first run that satisfies a condition on its diagonal and its end. -/
def lengthen (equal : Nat → Nat → Nat) (meets : Int → Nat → Bool) (d : Nat) :
    List Int → Reach → Reach × Option Run
  | [], r => (r, none)
  | k :: ks, r =>
    let x := r.enter d k
    let y := (x - k).toNat
    let run : Run := ⟨x, y, equal x y⟩
    let r := r.put k (x + run.size)
    if meets k (x + run.size) then (r, some run) else lengthen equal meets d ks r

/-- The point at which paths of at most so many steps more from both corners meet. -/
def meet (old new : List α) (d : Nat) (forward backward : Reach) : Nat → Option (Nat × Nat)
  | 0 => none
  | steps + 1 =>
    let n := old.length
    let m := new.length
    let delta : Int := n - m
    let odd : Bool := delta % 2 = 1
    let (forward, found) := lengthen
      (fun x y => commonPrefix (old.drop x) (new.drop y))
      (fun k x => odd && (k - delta).natAbs < d && n ≤ x + backward.get (delta - k))
      d (diagonals d) forward
    match found with
    | some run => some (run.x, run.y)
    | none =>
      let (backward, found) := lengthen
        (fun x y => if x < n ∧ y < m then commonSuffix (old.take (n - x)) (new.take (m - y)) else 0)
        (fun k x => !odd && (k - delta).natAbs ≤ d && n ≤ x + forward.get (delta - k))
        d (diagonals d) backward
      match found with
      | some run => some (n - (run.x + run.size), m - (run.y + run.size))
      | none => meet old new (d + 1) forward backward steps

/-- A point at which a shortest script can be split. -/
def middle (old new : List α) : Option (Nat × Nat) :=
  let steps := (old.length + new.length + 1) / 2 + 1
  meet old new 0 (Reach.start steps) (Reach.start steps) steps

/-! ## Scripts -/

/-- A range, unless it is empty. -/
def edit (kind : EditKind) (old new size : Nat) : List Edit :=
  if size = 0 then [] else [⟨kind, old, new, size⟩]

/-- Replaces all of a list. -/
def replaceAll (old new : List α) (i j : Nat) : List Edit :=
  edit .delete i j old.length ++ edit .insert i j new.length

/-- The script between two lists that begin at positions of larger lists. -/
def scriptAt (old new : List α) (i j : Nat) : List Edit :=
  let start := commonPrefix old new
  let restOld := old.drop start
  let restNew := new.drop start
  let stop := commonSuffix restOld restNew
  let midOld := restOld.take (restOld.length - stop)
  let midNew := restNew.take (restNew.length - stop)
  let change :=
    if midNew = [] then edit .delete (i + start) (j + start) midOld.length
    else if midOld = [] then edit .insert (i + start) (j + start) midNew.length
    else match middle midOld midNew with
      | none => replaceAll midOld midNew (i + start) (j + start)
      | some (x, y) =>
        if 0 < x + y ∧ x + y < midOld.length + midNew.length ∧ x ≤ midOld.length ∧
          y ≤ midNew.length then
          scriptAt (midOld.take x) (midNew.take y) (i + start) (j + start) ++
            scriptAt (midOld.drop x) (midNew.drop y) (i + start + x) (j + start + y)
        else replaceAll midOld midNew (i + start) (j + start)
  edit .keep i j start ++ change ++
    edit .keep (i + start + midOld.length) (j + start + midNew.length) stop
termination_by old.length + new.length
decreasing_by
  all_goals
    have hOld : midOld.length ≤ old.length :=
      Nat.le_trans (List.length_take_le' ..) (List.length_drop ▸ Nat.sub_le ..)
    have hNew : midNew.length ≤ new.length :=
      Nat.le_trans (List.length_take_le' ..) (List.length_drop ▸ Nat.sub_le ..)
    simp only [List.length_take, List.length_drop]
    omega

/-- The script between two lists. -/
def script (old new : List α) : List Edit := scriptAt old new 0 0

end DocSchema.Diff
