import DocSchema.Diff.Compact

/-!
# Edit scripts lead from one list to the other

A script is a path through two lists: each edit begins at the places where the one before
it ended, and what it keeps is the same in both lists (`Leads`).  The script between two
lists leads from their beginnings to their ends (`leads_script`), wherever the paths from
the two corners happen to meet: the proof asks nothing of `middle`, only that the point it
gives is inside the lists and not a corner, which `scriptAt` checks.
-/
namespace DocSchema.Diff
variable {α : Type}

/-! ## Paths of edits -/

/-- **What an edit says about two lists.**  It begins at a place in the old and a place in the new
list, and ends at another two.  The place of a deletion in the new list does not count, nor that of
an insertion in the old one. -/
inductive Edit.Spans (old new : List α) : Edit → Nat → Nat → Nat → Nat → Prop where
  | keep {i j n : Nat} : 0 < n → i + n ≤ old.length → j + n ≤ new.length →
      (old.drop i).take n = (new.drop j).take n → Spans old new ⟨.keep, i, j, n⟩ i j (i + n) (j + n)
  | delete {i j y n : Nat} : 0 < n → i + n ≤ old.length →
      Spans old new ⟨.delete, i, y, n⟩ i j (i + n) j
  | insert {i j x n : Nat} : 0 < n → j + n ≤ new.length →
      Spans old new ⟨.insert, x, j, n⟩ i j i (j + n)

/-- **Parts that follow one another.**  Each begins at the places in two lists where the one
before it ended. -/
inductive Follow {β : Type} (Spans : β → Nat → Nat → Nat → Nat → Prop) :
    List β → Nat → Nat → Nat → Nat → Prop where
  | nil {i j : Nat} : Follow Spans [] i j i j
  | cons {b : β} {bs : List β} {i j i₁ j₁ i' j' : Nat} : Spans b i j i₁ j₁ →
      Follow Spans bs i₁ j₁ i' j' → Follow Spans (b :: bs) i j i' j'

namespace Follow
variable {β : Type} {Spans : β → Nat → Nat → Nat → Nat → Prop} {i j i' j' : Nat}

theorem append_iff {xs ys : List β} :
    Follow Spans (xs ++ ys) i j i' j' ↔
      ∃ i₁ j₁, Follow Spans xs i j i₁ j₁ ∧ Follow Spans ys i₁ j₁ i' j' := by
  induction xs generalizing i j with
  | nil =>
    constructor
    · intro h
      exact ⟨i, j, .nil, h⟩
    · rintro ⟨i₁, j₁, hnil, h⟩
      cases hnil
      exact h
  | cons b xs ih =>
    constructor
    · intro h
      cases h with
      | cons hspans hrest =>
        obtain ⟨i₁, j₁, hxs, hys⟩ := ih.mp hrest
        exact ⟨i₁, j₁, .cons hspans hxs, hys⟩
    · rintro ⟨i₁, j₁, h, hys⟩
      cases h with
      | cons hspans hxs => exact .cons hspans (ih.mpr ⟨i₁, j₁, hxs, hys⟩)

theorem append {xs ys : List β} {i₁ j₁ : Nat} (hxs : Follow Spans xs i j i₁ j₁)
    (hys : Follow Spans ys i₁ j₁ i' j') : Follow Spans (xs ++ ys) i j i' j' :=
  append_iff.mpr ⟨i₁, j₁, hxs, hys⟩

theorem single {b : β} (h : Spans b i j i' j') : Follow Spans [b] i j i' j' := .cons h .nil

theorem pair_iff {b b' : β} :
    Follow Spans [b, b'] i j i' j' ↔ ∃ i₁ j₁, Spans b i j i₁ j₁ ∧ Spans b' i₁ j₁ i' j' := by
  constructor
  · rintro (_ | ⟨hspans, _ | ⟨hspans', ⟨⟩⟩⟩)
    exact ⟨_, _, hspans, hspans'⟩
  · rintro ⟨i₁, j₁, hspans, hspans'⟩
    exact .cons hspans (single hspans')

end Follow

/-- **Edits that lead** from places in two lists to other places. -/
abbrev Leads (old new : List α) : List Edit → Nat → Nat → Nat → Nat → Prop :=
  Follow (Edit.Spans old new)

variable {old new : List α}

/-! ## Scripts -/

/-- A range that begins at a place of a list. -/
def IsAt (part : List α) (l : List α) (i : Nat) : Prop := part <+: l.drop i

namespace IsAt
variable {part l : List α} {i n : Nat}

theorem take (h : IsAt part l i) (n : Nat) : IsAt (part.take n) l i :=
  (List.take_prefix n part).trans h

theorem drop (h : IsAt part l i) (hn : n ≤ part.length) : IsAt (part.drop n) l (i + n) := by
  obtain ⟨rest, hrest⟩ := h
  refine ⟨rest, ?_⟩
  rw [← List.drop_drop, ← hrest, List.drop_append_of_le_length hn]

theorem add_le_length (h : IsAt part l i) (hn : 0 < part.length) : i + part.length ≤ l.length := by
  have hle := List.IsPrefix.length_le h
  rw [List.length_drop] at hle
  omega

theorem take_drop (h : IsAt part l i) : (l.drop i).take part.length = part :=
  (List.prefix_iff_eq_take.mp h).symm

end IsAt

theorem leads_keep {part : List α} {i j : Nat} (hold : IsAt part old i) (hnew : IsAt part new j) :
    Leads old new (edit .keep i j part.length) i j (i + part.length) (j + part.length) := by
  unfold edit
  by_cases hsize : part.length = 0
  · rw [if_pos hsize, hsize]
    exact .nil
  · rw [if_neg hsize]
    have hpos : 0 < part.length := by omega
    exact .single (.keep hpos (hold.add_le_length hpos) (hnew.add_le_length hpos)
      (hold.take_drop.trans hnew.take_drop.symm))

theorem leads_delete {part : List α} {i : Nat} (j y : Nat) (hold : IsAt part old i) :
    Leads old new (edit .delete i y part.length) i j (i + part.length) j := by
  unfold edit
  by_cases hsize : part.length = 0
  · rw [if_pos hsize, hsize]
    exact .nil
  · rw [if_neg hsize]
    have hpos : 0 < part.length := by omega
    exact .single (.delete hpos (hold.add_le_length hpos))

theorem leads_insert {part : List α} {j : Nat} (i x : Nat) (hnew : IsAt part new j) :
    Leads old new (edit .insert x j part.length) i j i (j + part.length) := by
  unfold edit
  by_cases hsize : part.length = 0
  · rw [if_pos hsize, hsize]
    exact .nil
  · rw [if_neg hsize]
    have hpos : 0 < part.length := by omega
    exact .single (.insert hpos (hnew.add_le_length hpos))

theorem leads_replaceAll {xs ys : List α} {i j : Nat} (hold : IsAt xs old i)
    (hnew : IsAt ys new j) :
    Leads old new (replaceAll xs ys i j) i j (i + xs.length) (j + ys.length) :=
  (leads_delete j j hold).append (leads_insert (i + xs.length) i hnew)

variable [DecidableEq α]

theorem commonSuffix_le_left (as bs : List α) : commonSuffix as bs ≤ as.length :=
  List.length_reverse ▸ commonPrefix_le_left as.reverse bs.reverse

theorem commonSuffix_le_right (as bs : List α) : commonSuffix as bs ≤ bs.length :=
  List.length_reverse ▸ commonPrefix_le_right as.reverse bs.reverse

theorem drop_commonSuffix (as bs : List α) :
    as.drop (as.length - commonSuffix as bs) = bs.drop (bs.length - commonSuffix as bs) := by
  have h := take_commonPrefix as.reverse bs.reverse
  rw [List.take_reverse, List.take_reverse] at h
  exact List.reverse_inj.mp h

/-- The common end of two ranges is kept. -/
theorem leads_commonSuffix {xs ys : List α} {i j : Nat} (hxs : IsAt xs old i)
    (hys : IsAt ys new j) :
    Leads old new
      (edit .keep (i + (xs.length - commonSuffix xs ys)) (j + (ys.length - commonSuffix xs ys))
        (commonSuffix xs ys))
      (i + (xs.length - commonSuffix xs ys)) (j + (ys.length - commonSuffix xs ys))
      (i + xs.length) (j + ys.length) := by
  have hleft := commonSuffix_le_left xs ys
  have hright := commonSuffix_le_right xs ys
  have hdrop := drop_commonSuffix xs ys
  generalize commonSuffix xs ys = n at *
  have hold := hxs.drop (Nat.sub_le xs.length n)
  have hnew := hys.drop (Nat.sub_le ys.length n)
  rw [← hdrop] at hnew
  have hlength : (xs.drop (xs.length - n)).length = n := by
    rw [List.length_drop]
    omega
  have hkeep := leads_keep hold hnew
  rw [hlength] at hkeep
  have hold' : i + (xs.length - n) + n = i + xs.length := by omega
  have hnew' : j + (ys.length - n) + n = j + ys.length := by omega
  rwa [hold', hnew'] at hkeep

/-- **The script leads from the beginnings of two ranges to their ends.** -/
theorem leads_scriptAt {xs ys : List α} {i j : Nat} (hxs : IsAt xs old i) (hys : IsAt ys new j) :
    Leads old new (scriptAt xs ys i j) i j (i + xs.length) (j + ys.length) := by
  fun_induction scriptAt xs ys i j with
  | case1 xs ys i j start restOld restNew stop midOld midNew change ih₁ ih₂ =>
    have hstartOld : start ≤ xs.length := commonPrefix_le_left xs ys
    have hstartNew : start ≤ ys.length := commonPrefix_le_right xs ys
    have hrestOld : IsAt restOld old (i + start) := hxs.drop hstartOld
    have hrestNew : IsAt restNew new (j + start) := hys.drop hstartNew
    have hmidOld : IsAt midOld old (i + start) := hrestOld.take _
    have hmidNew : IsAt midNew new (j + start) := hrestNew.take _
    have hstart : Leads old new (edit .keep i j start) i j (i + start) (j + start) := by
      have hnew := hys.take start
      rw [← take_commonPrefix xs ys] at hnew
      have hkeep := leads_keep (hxs.take start) hnew
      rwa [List.length_take_of_le hstartOld] at hkeep
    have hchange : Leads old new change (i + start) (j + start) (i + start + midOld.length)
        (j + start + midNew.length) := by
      simp only [change]
      split
      · rename_i hnil
        rw [hnil]
        exact leads_delete _ _ hmidOld
      · split
        · rename_i hnil
          rw [hnil]
          exact leads_insert _ _ hmidNew
        · split
          · exact leads_replaceAll hmidOld hmidNew
          · rename_i x y _
            split
            · rename_i hpoint
              have hfirst := ih₁ x y hpoint (hmidOld.take x) (hmidNew.take y)
              have hsecond := ih₂ x y hpoint (hmidOld.drop hpoint.2.2.1) (hmidNew.drop hpoint.2.2.2)
              rw [List.length_take_of_le hpoint.2.2.1,
                List.length_take_of_le hpoint.2.2.2] at hfirst
              rw [List.length_drop, List.length_drop] at hsecond
              have hendOld : i + start + x + (midOld.length - x) =
                  i + start + midOld.length := by omega
              have hendNew : j + start + y + (midNew.length - y) =
                  j + start + midNew.length := by omega
              rw [hendOld, hendNew] at hsecond
              exact hfirst.append hsecond
            · exact leads_replaceAll hmidOld hmidNew
    have hstop : Leads old new
        (edit .keep (i + start + midOld.length) (j + start + midNew.length) stop)
        (i + start + midOld.length) (j + start + midNew.length)
        (i + xs.length) (j + ys.length) := by
      have hkeep := leads_commonSuffix hrestOld hrestNew
      have hlengthOld : restOld.length - stop = midOld.length :=
        (List.length_take_of_le (Nat.sub_le ..)).symm
      have hlengthNew : restNew.length - stop = midNew.length :=
        (List.length_take_of_le (Nat.sub_le ..)).symm
      have hendOld : i + start + restOld.length = i + xs.length := by
        simp only [restOld, List.length_drop]
        omega
      have hendNew : j + start + restNew.length = j + ys.length := by
        simp only [restNew, List.length_drop]
        omega
      rwa [hlengthOld, hlengthNew, hendOld, hendNew] at hkeep
    exact (hstart.append hchange).append hstop

/-- **A script leads through both lists.** -/
theorem leads_script (old new : List α) :
    Leads old new (script old new) 0 0 old.length new.length := by
  have hold : IsAt old old 0 := List.prefix_refl old
  have hnew : IsAt new new 0 := List.prefix_refl new
  have h := leads_scriptAt hold hnew
  rwa [Nat.zero_add, Nat.zero_add] at h

end DocSchema.Diff
