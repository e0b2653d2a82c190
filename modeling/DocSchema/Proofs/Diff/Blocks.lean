import DocSchema.Proofs.Diff.Compact
import Mathlib.Data.List.SplitBy

/-!
# Blocks describe a change

The groups of a script are of kept ranges or of changes, and each is one block
(`tiles_groups`), so the blocks of a script tile the lists that it leads through.  What is
needed of them later is said without places (`Describes`): their parts are the two lists,
and the parts of a kept block are the same.
-/
namespace DocSchema.Diff
variable {α : Type} {old new : List α}

/-! ## Groups of edits -/

/-- **What a block says about two lists.**  A kept one is the same in both.  A changed one does not
say where it is in a list in which it is empty. -/
inductive Block.Spans (old new : List α) : Block → Nat → Nat → Nat → Nat → Prop where
  | kept {i j n : Nat} : 0 < n → (old.drop i).take n = (new.drop j).take n →
      Spans old new ⟨true, i, n, j, n⟩ i j (i + n) (j + n)
  | changed {i j x y m n : Nat} : 0 < m + n → (0 < m → x = i) → (0 < n → y = j) →
      Spans old new ⟨false, x, m, y, n⟩ i j (i + m) (j + n)

/-- **Blocks that tile** two lists between places. -/
abbrev Tiles (old new : List α) : List Block → Nat → Nat → Nat → Nat → Prop :=
  Follow (Block.Spans old new)

theorem totalSize_cons (e : Edit) (es : List Edit) :
    totalSize (e :: es) = e.size + totalSize es := rfl

/-- Kept ranges that follow one another are one kept range. -/
theorem spans_of_leads_keep {es : List Edit} {i j i' j' : Nat} (hes : es ≠ [])
    (hkeep : ∀ e ∈ es, e.kind = .keep) (h : Leads old new es i j i' j') :
    Edit.Spans old new ⟨.keep, i, j, totalSize es⟩ i j i' j' := by
  induction h with
  | nil => exact absurd rfl hes
  | @cons e es i j i₁ j₁ i' j' hspans hrest ih =>
    have he := hkeep e List.mem_cons_self
    cases hspans with
    | delete | insert => cases he
    | @keep _ _ n hn hold hnew heq =>
      cases es with
      | nil =>
        cases hrest
        exact .keep hn hold hnew heq
      | cons e' es =>
        have hlater := ih (by simp) fun e he => hkeep e (List.mem_cons_of_mem _ he)
        exact (Edit.Spans.keep hn hold hnew heq).longer hlater rfl

/-- Changes that follow one another, by what they delete and what they insert. -/
theorem leads_changes {es : List Edit} {i j i' j' : Nat} (hchange : ∀ e ∈ es, e.kind ≠ .keep)
    (h : Leads old new es i j i' j') :
    i' = i + totalSize (es.filter (·.kind = .delete)) ∧
      j' = j + totalSize (es.filter (·.kind = .insert)) ∧
      (∀ d ∈ (es.filter (·.kind = .delete)).head?, d.old = i) ∧
      ∀ e ∈ (es.filter (·.kind = .insert)).head?, e.new = j := by
  induction h with
  | nil => simp [totalSize]
  | @cons e es i j i₁ j₁ i' j' hspans hrest ih =>
    obtain ⟨hi, hj, hold, hnew⟩ := ih fun e he => hchange e (List.mem_cons_of_mem _ he)
    cases hspans with
    | keep => exact absurd rfl (hchange _ List.mem_cons_self)
    | delete =>
      rw [List.filter_cons_of_pos (by simp), List.filter_cons_of_neg (by simp)]
      refine ⟨?_, hj, by simp, hnew⟩
      rw [hi, totalSize_cons, Nat.add_assoc]
    | insert =>
      rw [List.filter_cons_of_neg (by simp), List.filter_cons_of_pos (by simp)]
      refine ⟨hi, ?_, hold, by simp⟩
      rw [hj, totalSize_cons, Nat.add_assoc]

/-- No edit of a script is empty. -/
theorem size_pos_of_leads {es : List Edit} {i j i' j' : Nat} (h : Leads old new es i j i' j') :
    ∀ e ∈ es, 0 < e.size := by
  induction h with
  | nil => exact fun _ he => absurd he List.not_mem_nil
  | cons hspans _ ih =>
    intro e he
    rcases List.mem_cons.mp he with rfl | he
    · cases hspans with
      | keep hpos | delete hpos | insert hpos => exact hpos
    · exact ih e he

/-- The edits of one kind in a script have a size, if there are any. -/
theorem totalSize_filter_pos {es more : List Edit} {e : Edit} {p : Edit → Bool} {i j i' j' : Nat}
    (h : Leads old new es i j i' j') (hfilter : es.filter p = e :: more) :
    0 < totalSize (e :: more) := by
  have hmem : e ∈ es.filter p := hfilter ▸ List.mem_cons_self
  have hsize := size_pos_of_leads h e (List.mem_filter.mp hmem).1
  rw [totalSize_cons]
  omega

/-- A group of kept ranges is one kept block. -/
theorem tiles_ofEdits_keep {es : List Edit} {i j i' j' : Nat} (hes : es ≠ [])
    (hkeep : ∀ e ∈ es, e.kind = .keep) (h : Leads old new es i j i' j') :
    Tiles old new (Block.ofEdits es) i j i' j' := by
  have hspans := spans_of_leads_keep hes hkeep h
  have hall : es.filter (·.kind = .keep) = es :=
    List.filter_eq_self.mpr fun e he => decide_eq_true (hkeep e he)
  obtain ⟨e, rest, rfl⟩ := List.exists_cons_of_ne_nil hes
  have hfirst : e.old = i ∧ e.new = j := by
    cases h with
    | cons he _ =>
      have hkind := hkeep e List.mem_cons_self
      cases he with
      | keep => exact ⟨rfl, rfl⟩
      | delete | insert => cases hkind
  simp only [Block.ofEdits, hall, hfirst.1, hfirst.2]
  cases hspans with
  | keep hpos _ _ heq => exact .single (.kept hpos heq)

/-- A group of changes is one changed block, which says where it is in the lists in which it is not
empty. -/
theorem tiles_ofEdits_change {es : List Edit} {i j i' j' : Nat} (hes : es ≠ [])
    (hchange : ∀ e ∈ es, e.kind ≠ .keep) (h : Leads old new es i j i' j') :
    Tiles old new (Block.ofEdits es) i j i' j' := by
  have hnone : es.filter (·.kind = .keep) = [] := by
    rw [List.filter_eq_nil_iff]
    intro e he
    simpa using hchange e he
  obtain ⟨rfl, rfl, hold, hnew⟩ := leads_changes hchange h
  simp only [Block.ofEdits, hnone]
  cases hdeleted : es.filter (·.kind = .delete) with
  | cons d ds =>
    have hplace : d.old = i := hold d (by rw [hdeleted]; rfl)
    have hsize := totalSize_filter_pos h hdeleted
    cases hinserted : es.filter (·.kind = .insert) with
    | cons e more =>
      have hplace' : e.new = j := hnew e (by rw [hinserted]; rfl)
      exact .single (.changed (by omega) (fun _ => hplace) fun _ => hplace')
    | nil =>
      exact .single (.changed hsize (fun _ => hplace) fun hlt => absurd hlt (Nat.lt_irrefl 0))
  | nil =>
    cases hinserted : es.filter (·.kind = .insert) with
    | cons e more =>
      have hplace' : e.new = j := hnew e (by rw [hinserted]; rfl)
      have hsize := totalSize_filter_pos h hinserted
      exact .single (.changed (by omega) (fun hlt => absurd hlt (Nat.lt_irrefl 0)) fun _ => hplace')
    | nil =>
      -- An edit is of one of the three kinds.
      obtain ⟨e, rest, rfl⟩ := List.exists_cons_of_ne_nil hes
      have hkind := hchange e List.mem_cons_self
      cases he : e.kind <;> simp_all

/-- **Groups of edits are blocks.** -/
theorem tiles_groups {groups : List (List Edit)} {i j i' j' : Nat}
    (hgroups : ∀ group ∈ groups, group ≠ [] ∧
      ((∀ e ∈ group, e.kind = .keep) ∨ ∀ e ∈ group, e.kind ≠ .keep))
    (h : Leads old new groups.flatten i j i' j') :
    Tiles old new (groups.flatMap Block.ofEdits) i j i' j' := by
  induction groups generalizing i j with
  | nil =>
    cases h
    exact .nil
  | cons group groups ih =>
    obtain ⟨i₁, j₁, hgroup, hrest⟩ := Follow.append_iff.mp h
    obtain ⟨hne, hkind⟩ := hgroups group List.mem_cons_self
    have hfirst : Tiles old new (Block.ofEdits group) i j i₁ j₁ := by
      rcases hkind with hkeep | hchange
      · exact tiles_ofEdits_keep hne hkeep hgroup
      · exact tiles_ofEdits_change hne hchange hgroup
    rw [List.flatMap_cons]
    exact hfirst.append (ih (fun group hmem => hgroups group (List.mem_cons_of_mem _ hmem)) hrest)

/-- Edits of which each is kept exactly if the next one is are all kept or all changes. -/
theorem kind_of_isChain {group : List Edit}
    (h : group.IsChain fun a b => ((a.kind = .keep) == (b.kind = .keep)) = true) :
    (∀ e ∈ group, e.kind = .keep) ∨ ∀ e ∈ group, e.kind ≠ .keep := by
  induction h with
  | nil => exact .inl fun _ he => absurd he List.not_mem_nil
  | singleton a =>
    by_cases ha : a.kind = .keep
    · left
      simpa using ha
    · right
      simpa using ha
  | @cons_cons a b group hab _ ih =>
    have hsame : a.kind = .keep ↔ b.kind = .keep := by simpa using hab
    rcases ih with hkeep | hchange
    · left
      exact List.forall_mem_cons.mpr ⟨hsame.mpr (hkeep b List.mem_cons_self), hkeep⟩
    · right
      exact List.forall_mem_cons.mpr ⟨mt hsame.mp (hchange b List.mem_cons_self), hchange⟩

/-- **The blocks of a script tile the lists that it leads through.** -/
theorem tiles_blocks {es : List Edit} {i j i' j' : Nat} (h : Leads old new es i j i' j') :
    Tiles old new (blocks es) i j i' j' := by
  refine tiles_groups (fun group hgroup => ?_) ?_
  · exact ⟨List.ne_nil_of_mem_splitBy hgroup, kind_of_isChain (List.isChain_of_mem_splitBy hgroup)⟩
  · rw [List.flatten_splitBy]
    exact h

/-- **The blocks between two lists tile them.** -/
theorem tiles_compare [DecidableEq α] (old new : List α) :
    Tiles old new (compare old new) 0 0 old.length new.length :=
  tiles_blocks (leads_compact (leads_script old new))

/-! ## Parts of blocks -/

/-- The elements of a block in the old list. -/
def Block.oldPart (old : List α) (b : Block) : List α := (old.drop b.old).take b.oldSize

/-- The elements of a block in the new list. -/
def Block.newPart (new : List α) (b : Block) : List α := (new.drop b.new).take b.newSize

/-- **Blocks that describe a change.**  Their parts are the two lists.  A kept block is the same
range of both, and no block is empty. -/
structure Describes (old new : List α) (bs : List Block) : Prop where
  old_eq : bs.flatMap (Block.oldPart old) = old
  new_eq : bs.flatMap (Block.newPart new) = new
  kept : ∀ b ∈ bs, b.kept = true →
    0 < b.oldSize ∧ b.old + b.oldSize ≤ old.length ∧ b.oldPart old = b.newPart new
  changed : ∀ b ∈ bs, b.kept = false → b.oldPart old ≠ [] ∨ b.newPart new ≠ []

/-- A part of a list that begins with a shorter one. -/
theorem take_append_take {l : List α} {i m i' : Nat} (h : i + m ≤ i') :
    (l.drop i).take m ++ (l.drop (i + m)).take (i' - (i + m)) = (l.drop i).take (i' - i) := by
  have hsize : i' - i = m + (i' - (i + m)) := by omega
  rw [hsize, List.take_add, List.drop_drop]

theorem take_drop_ne_nil {l : List α} {i n : Nat} (hn : 0 < n) (h : i + n ≤ l.length) :
    (l.drop i).take n ≠ [] := by
  intro hnil
  have hlength := congrArg List.length hnil
  rw [List.length_take, List.length_drop, List.length_nil] at hlength
  omega

/-- Blocks that tile ranges describe how one became the other. -/
theorem parts_of_tiles {bs : List Block} {i j i' j' : Nat} (h : Tiles old new bs i j i' j')
    (hold : i' ≤ old.length) (hnew : j' ≤ new.length) :
    i ≤ i' ∧ j ≤ j' ∧ bs.flatMap (Block.oldPart old) = (old.drop i).take (i' - i) ∧
      bs.flatMap (Block.newPart new) = (new.drop j).take (j' - j) ∧
      (∀ b ∈ bs, b.kept = true →
        0 < b.oldSize ∧ b.old + b.oldSize ≤ old.length ∧ b.oldPart old = b.newPart new) ∧
      ∀ b ∈ bs, b.kept = false → b.oldPart old ≠ [] ∨ b.newPart new ≠ [] := by
  induction h with
  | nil => simp
  | @cons b bs i j i₁ j₁ i' j' hspans _ ih =>
    obtain ⟨hi, hj, holdParts, hnewParts, hkept, hchanged⟩ := ih hold hnew
    simp only [List.flatMap_cons, holdParts, hnewParts, List.forall_mem_cons]
    cases hspans with
    | @kept _ _ n hpos heq =>
      have hparts := take_append_take (l := old) hi
      have hparts' := take_append_take (l := new) hj
      have hinside : i + n ≤ old.length := by omega
      exact ⟨by omega, by omega, hparts, hparts', ⟨fun _ => ⟨hpos, hinside, heq⟩, hkept⟩,
        ⟨nofun, hchanged⟩⟩
    | @changed _ _ x y m n hpos hx hy =>
      have hpart : Block.oldPart old ⟨false, x, m, y, n⟩ = (old.drop i).take m := by
        rcases Nat.eq_zero_or_pos m with rfl | hm
        · simp [Block.oldPart]
        · rw [← hx hm, Block.oldPart]
      have hpart' : Block.newPart new ⟨false, x, m, y, n⟩ = (new.drop j).take n := by
        rcases Nat.eq_zero_or_pos n with rfl | hn
        · simp [Block.newPart]
        · rw [← hy hn, Block.newPart]
      rw [hpart, hpart', take_append_take hi, take_append_take hj]
      refine ⟨by omega, by omega, rfl, rfl, ⟨nofun, hkept⟩, ⟨fun _ => ?_, hchanged⟩⟩
      rcases Nat.eq_zero_or_pos m with rfl | hm
      · exact .inr (take_drop_ne_nil (by omega) (by omega))
      · exact .inl (take_drop_ne_nil hm (by omega))

/-- **The blocks between two lists describe the change from one to the other.** -/
theorem describes_compare [DecidableEq α] (old new : List α) :
    Describes old new (compare old new) := by
  obtain ⟨-, -, hold, hnew, hkept, hchanged⟩ :=
    parts_of_tiles (tiles_compare old new) (Nat.le_refl _) (Nat.le_refl _)
  refine ⟨?_, ?_, hkept, hchanged⟩
  · rw [hold, List.drop_zero, Nat.sub_zero, List.take_length]
  · rw [hnew, List.drop_zero, Nat.sub_zero, List.take_length]

end DocSchema.Diff
