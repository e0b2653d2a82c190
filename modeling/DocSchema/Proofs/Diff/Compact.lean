import DocSchema.Proofs.Diff.Script

/-!
# Tidied scripts lead where the script led

Tidying moves edits about, so it is enough to look at two that follow one another.  Those
of one kind are one edit (`Edit.Spans.longer`), a deletion and an insertion may change
places (`Edit.Spans.swap`), and an insertion may slide along a kept range as long as it
repeats its elements (`Edit.Spans.slideUp`, `Edit.Spans.slideDown`).  A cursor does one of
these at a time, between the same places of the two lists.  The place of a deletion in the
new list, and that of an insertion in the old one, are not kept up to date; nothing here
says what they are.
-/
namespace DocSchema.Diff
variable {α : Type} {old new : List α}

/-! ## Two edits -/

/-- **Merging.**  Two edits of one kind that follow one another are one edit. -/
theorem Edit.Spans.longer {e e' : Edit} {i j i₁ j₁ i' j' : Nat} (h : e.Spans old new i j i₁ j₁)
    (h' : e'.Spans old new i₁ j₁ i' j') (hkind : e.kind = e'.kind) :
    (e.longer e'.size).Spans old new i j i' j' := by
  cases h with
  | keep hpos hold hnew heq =>
    cases h' with
    | @keep _ _ n' hpos' hold' hnew' heq' =>
      rw [Nat.add_assoc] at hold' hnew' ⊢
      rw [Nat.add_assoc]
      refine .keep (Nat.add_pos_left hpos _) hold' hnew' ?_
      rw [List.take_add, List.take_add, List.drop_drop, List.drop_drop, heq, heq']
    | delete | insert => cases hkind
  | delete hpos hold =>
    cases h' with
    | delete hpos' hold' =>
      rw [Nat.add_assoc] at hold' ⊢
      exact .delete (Nat.add_pos_left hpos _) hold'
    | keep | insert => cases hkind
  | insert hpos hnew =>
    cases h' with
    | insert hpos' hnew' =>
      rw [Nat.add_assoc] at hnew' ⊢
      exact .insert (Nat.add_pos_left hpos _) hnew'
    | keep | delete => cases hkind

/-- **Changing places.**  A deletion and an insertion may come in either order. -/
theorem Edit.Spans.swap {e e' : Edit} {i j i₁ j₁ i' j' : Nat} (h : e.Spans old new i j i₁ j₁)
    (h' : e'.Spans old new i₁ j₁ i' j') (hkind : e.kind ≠ e'.kind) (hkeep : e.kind ≠ .keep)
    (hkeep' : e'.kind ≠ .keep) : Leads old new [e', e] i j i' j' := by
  cases h with
  | keep => exact absurd rfl hkeep
  | delete hpos hold =>
    cases h' with
    | keep => exact absurd rfl hkeep'
    | delete => exact absurd rfl hkind
    | insert hpos' hnew => exact Follow.pair_iff.mpr ⟨_, _, .insert hpos' hnew, .delete hpos hold⟩
  | insert hpos hnew =>
    cases h' with
    | keep => exact absurd rfl hkeep'
    | insert => exact absurd rfl hkind
    | delete hpos' hold => exact Follow.pair_iff.mpr ⟨_, _, .delete hpos' hold, .insert hpos hnew⟩

theorem consNonempty_eq_append (e : Edit) (es : List Edit) :
    consNonempty e es = consNonempty e [] ++ es := by
  unfold consNonempty
  split <;> rfl

theorem reverse_consNonempty (e : Edit) (es : List Edit) :
    (consNonempty e es).reverse = es.reverse ++ consNonempty e [] := by
  unfold consNonempty
  split <;> simp

/-- A kept range in front of others. -/
theorem leads_consNonempty_keep {i j n i' j' : Nat} {es : List Edit}
    (hsize : i + n ≤ old.length) (hsize' : j + n ≤ new.length)
    (heq : (old.drop i).take n = (new.drop j).take n)
    (h : Leads old new es (i + n) (j + n) i' j') :
    Leads old new (consNonempty ⟨.keep, i, j, n⟩ es) i j i' j' := by
  unfold consNonempty
  by_cases hn : n = 0
  · subst hn
    rw [if_pos rfl]
    exact h
  · rw [if_neg hn]
    exact .cons (.keep (by omega) hsize hsize' heq) h

/-- A range that is kept joins what is kept above it. -/
theorem leads_keepAbove {kept : Edit} {above : List Edit} {i j i' j' : Nat}
    (hkind : kept.kind = .keep) (h : Leads old new (above.reverse ++ [kept]) i j i' j') :
    Leads old new (keepAbove kept above).reverse i j i' j' := by
  cases above with
  | nil => exact h
  | cons e above =>
    rw [keepAbove]
    by_cases he : e.kind = .keep
    · rw [if_pos he, List.reverse_cons]
      rw [List.reverse_cons, List.append_assoc] at h
      obtain ⟨i₁, j₁, hfront, hpair⟩ := Follow.append_iff.mp h
      obtain ⟨i₂, j₂, hspans, hspans'⟩ := Follow.pair_iff.mp hpair
      exact hfront.append (.single (hspans.longer hspans' (he.trans hkind.symm)))
    · rw [if_neg he, List.reverse_cons]
      exact h

/-- Lengthening the later of two kept ranges to the front is lengthening the earlier one. -/
theorem Edit.Spans.longer_up {e e' : Edit} {i j i₁ j₁ i' j' : Nat} (h : e.Spans old new i j i₁ j₁)
    (h' : e'.Spans old new i₁ j₁ i' j') (hkeep : e.kind = .keep) (hkeep' : e'.kind = .keep) :
    (e'.up e.size).longer e.size = e.longer e'.size := by
  cases h with
  | delete | insert => cases hkeep
  | keep =>
    cases h' with
    | delete | insert => cases hkeep'
    | keep => simp only [up, Edit.longer, Nat.add_sub_cancel, Nat.add_comm]

/-- A range that is kept joins what is kept below it. -/
theorem leads_keepBelow {kept : Edit} {below : List Edit} {i j i' j' : Nat}
    (hkind : kept.kind = .keep) (h : Leads old new (kept :: below) i j i' j') :
    Leads old new (keepBelow kept below) i j i' j' := by
  cases below with
  | nil => exact h
  | cons e below =>
    rw [keepBelow]
    by_cases he : e.kind = .keep
    · rw [if_pos he]
      cases h with
      | cons hspans hrest =>
        cases hrest with
        | cons hspans' hrest =>
          rw [hspans.longer_up hspans' hkind he]
          exact .cons (hspans.longer hspans' (hkind.trans he.symm)) hrest
    · rw [if_neg he]
      exact h

section Sliding
variable [DecidableEq α]

/-- **Sliding up.**  If a kept range ends like the insertion after it, the common end can be kept
after the insertion instead. -/
theorem Edit.Spans.slideUp {e edit : Edit} {i j i₁ j₁ i' j' n : Nat} (h : e.Spans old new i j i₁ j₁)
    (h' : edit.Spans old new i₁ j₁ i' j') (hkeep : e.kind = .keep) (hkind : edit.kind ≠ .keep)
    (hn : n = commonSuffix (e.oldPart old) (edit.newPart new)) (hpos : 0 < n) :
    ∃ i₁ j₁ i₂ j₂, Leads old new (consNonempty (e.shorter n) []) i j i₁ j₁ ∧
      (edit.up n).Spans old new i₁ j₁ i₂ j₂ ∧
      Edit.Spans old new ⟨.keep, e.old + e.size - n, edit.new + edit.size - n, n⟩ i₂ j₂ i' j' := by
  cases h with
  | delete | insert => cases hkeep
  | @keep i j m hm hold hnew heq =>
    cases h' with
    | keep => exact absurd rfl hkind
    | delete =>
      have hzero : n = 0 := by simpa [Edit.newPart, commonSuffix, commonPrefix] using hn
      omega
    | @insert _ _ x m' hm' hnew' =>
      replace hn : n = commonSuffix ((old.drop i).take m) ((new.drop (j + m)).take m') := hn
      have hle := commonSuffix_le_left ((old.drop i).take m) ((new.drop (j + m)).take m')
      have hle' := commonSuffix_le_right ((old.drop i).take m) ((new.drop (j + m)).take m')
      have hend := drop_commonSuffix ((old.drop i).take m) ((new.drop (j + m)).take m')
      rw [← hn] at hle hle' hend
      have hlength : ((old.drop i).take m).length = m := by
        rw [List.length_take, List.length_drop]
        omega
      have hlength' : ((new.drop (j + m)).take m').length = m' := by
        rw [List.length_take, List.length_drop]
        omega
      rw [hlength] at hle
      rw [hlength'] at hle'
      obtain ⟨r, rfl⟩ := Nat.exists_eq_add_of_le' hle
      -- The common end, where it stands in the two lists.
      have hkept : (old.drop (i + r)).take n = (new.drop (j + r + m')).take n := by
        rw [hlength, hlength', List.drop_take, List.drop_take, List.drop_drop, List.drop_drop,
          Nat.sub_sub_self hle, Nat.sub_sub_self hle', Nat.add_sub_cancel] at hend
        rw [hend]
        congr 2
        omega
      -- What is left of the kept range.
      have hrest : (old.drop i).take r = (new.drop j).take r := by
        have htake := congrArg (List.take r) heq
        rwa [List.take_take, List.take_take, Nat.min_eq_left (Nat.le_add_right r n)] at htake
      have hshorter : Edit.shorter ⟨.keep, i, j, r + n⟩ n = ⟨.keep, i, j, r⟩ := by
        simp [Edit.shorter]
      have hup : Edit.up ⟨.insert, x, j + (r + n), m'⟩ n = ⟨.insert, x - n, j + r, m'⟩ := by
        simp only [Edit.up, Edit.mk.injEq, true_and, and_true]
        omega
      have hplaces : i + (r + n) - n = i + r ∧ j + (r + n) + m' - n = j + r + m' ∧
          i + (r + n) = i + r + n ∧ j + (r + n) + m' = j + r + m' + n := by omega
      dsimp only
      rw [hshorter, hup, hplaces.1, hplaces.2.1, hplaces.2.2.1, hplaces.2.2.2]
      exact ⟨_, _, _, _, leads_consNonempty_keep (by omega) (by omega) hrest .nil,
        .insert hm' (by omega), .keep hpos (by omega) (by omega) hkept⟩

/-- **Sliding down.**  If a kept range begins like the insertion before it, the common beginning can
be kept before the insertion instead. -/
theorem Edit.Spans.slideDown {e edit : Edit} {i j i₁ j₁ i' j' n : Nat}
    (h : edit.Spans old new i j i₁ j₁) (h' : e.Spans old new i₁ j₁ i' j') (hkeep : e.kind = .keep)
    (hkind : edit.kind ≠ .keep) (hn : n = commonPrefix (e.oldPart old) (edit.newPart new))
    (hpos : 0 < n) :
    ∃ i₁ j₁ i₂ j₂, Edit.Spans old new ⟨.keep, e.old, edit.new, n⟩ i j i₁ j₁ ∧
      (edit.down n).Spans old new i₁ j₁ i₂ j₂ ∧
      Leads old new (consNonempty ((e.down n).shorter n) []) i₂ j₂ i' j' := by
  cases h' with
  | delete | insert => cases hkeep
  | @keep _ _ m hm hold hnew heq =>
    cases h with
    | keep => exact absurd rfl hkind
    | delete =>
      have hzero : n = 0 := by simpa [Edit.newPart, commonPrefix] using hn
      omega
    | @insert _ _ x m' hm' hnew' =>
      replace hn : n = commonPrefix ((old.drop i).take m) ((new.drop j).take m') := hn
      have hle := commonPrefix_le_left ((old.drop i).take m) ((new.drop j).take m')
      have hle' := commonPrefix_le_right ((old.drop i).take m) ((new.drop j).take m')
      have hstart := take_commonPrefix ((old.drop i).take m) ((new.drop j).take m')
      rw [← hn] at hle hle' hstart
      rw [List.length_take, List.length_drop] at hle hle'
      obtain ⟨r, rfl⟩ := Nat.exists_eq_add_of_le (show n ≤ m by omega)
      -- The common beginning, where it stands in the two lists.
      have hkept : (old.drop i).take n = (new.drop j).take n := by
        have hle' : n ≤ m' := by omega
        rwa [List.take_take, List.take_take, Nat.min_eq_left (Nat.le_add_right n r),
          Nat.min_eq_left hle'] at hstart
      -- What is left of the kept range.
      have hrest : (old.drop (i + n)).take r = (new.drop (j + n + m')).take r := by
        have hdrop := congrArg (List.drop n) heq
        rw [List.drop_take, List.drop_take, List.drop_drop, List.drop_drop,
          Nat.add_sub_cancel_left] at hdrop
        rw [hdrop]
        congr 2
        omega
      have hshorter : (Edit.down ⟨.keep, i, j + m', n + r⟩ n).shorter n =
          ⟨.keep, i + n, j + n + m', r⟩ := by
        simp only [Edit.down, Edit.shorter, Edit.mk.injEq, true_and]
        omega
      have hdown : Edit.down ⟨.insert, x, j, m'⟩ n = ⟨.insert, x + n, j + n, m'⟩ := rfl
      have hplaces : i + (n + r) = i + n + r ∧ j + m' + (n + r) = j + n + m' + r := by omega
      dsimp only
      rw [hshorter, hdown, hplaces.1, hplaces.2]
      exact ⟨_, _, _, _, .keep hpos (by omega) (by omega) hkept, .insert hm' (by omega),
        leads_consNonempty_keep (by omega) (by omega) hrest .nil⟩

end Sliding

/-! ## Cursors -/

/-- The script that a cursor stands in. -/
def Cursor.edits (c : Cursor) : List Edit := c.above.reverse ++ c.edit :: c.below

/-- Around the place where a cursor moves up: the edit before it and its own. -/
theorem leads_edits_up_iff {e edit : Edit} {above below : List Edit} {i j i' j' : Nat} :
    Leads old new (Cursor.edits ⟨e :: above, edit, below⟩) i j i' j' ↔
      ∃ i₁ j₁ i₂ j₂ i₃ j₃, Leads old new above.reverse i j i₁ j₁ ∧ e.Spans old new i₁ j₁ i₂ j₂ ∧
        edit.Spans old new i₂ j₂ i₃ j₃ ∧ Leads old new below i₃ j₃ i' j' := by
  have hedits : Cursor.edits ⟨e :: above, edit, below⟩ = above.reverse ++ ([e, edit] ++ below) := by
    simp [Cursor.edits]
  rw [hedits]
  constructor
  · intro h
    obtain ⟨i₁, j₁, habove, hrest⟩ := Follow.append_iff.mp h
    obtain ⟨i₃, j₃, hpair, hbelow⟩ := Follow.append_iff.mp hrest
    obtain ⟨i₂, j₂, he, hedit⟩ := Follow.pair_iff.mp hpair
    exact ⟨i₁, j₁, i₂, j₂, i₃, j₃, habove, he, hedit, hbelow⟩
  · rintro ⟨i₁, j₁, i₂, j₂, i₃, j₃, habove, he, hedit, hbelow⟩
    exact habove.append (.cons he (.cons hedit hbelow))

/-- Around the place where a cursor moves down: its own edit and the one after it. -/
theorem leads_edits_down_iff {e edit : Edit} {above below : List Edit} {i j i' j' : Nat} :
    Leads old new (Cursor.edits ⟨above, edit, e :: below⟩) i j i' j' ↔
      ∃ i₁ j₁ i₂ j₂ i₃ j₃, Leads old new above.reverse i j i₁ j₁ ∧ edit.Spans old new i₁ j₁ i₂ j₂ ∧
        e.Spans old new i₂ j₂ i₃ j₃ ∧ Leads old new below i₃ j₃ i' j' := by
  have hedits : Cursor.edits ⟨above, edit, e :: below⟩ =
      Cursor.edits ⟨edit :: above, e, below⟩ := by
    simp [Cursor.edits]
  rw [hedits]
  exact leads_edits_up_iff

variable [DecidableEq α]

/-- **Sliding up leads where the script led.** -/
theorem leads_slideUp {c : Cursor} {i j i' j' : Nat} (hkind : c.edit.kind ≠ .keep)
    (h : Leads old new c.edits i j i' j') :
    Leads old new (slideUp old new c).edits i j i' j' ∧
      (slideUp old new c).edit.kind = c.edit.kind := by
  fun_induction slideUp old new c with
  | case1 edit below => exact ⟨h, rfl⟩
  | case2 edit below e above hsame ih =>
    obtain ⟨i₁, j₁, i₂, j₂, i₃, j₃, habove, he, hedit, hbelow⟩ := leads_edits_up_iff.mp h
    obtain ⟨hleads, hkind'⟩ := ih (hsame ▸ hkind)
      (habove.append (.cons (he.longer hedit hsame) hbelow))
    exact ⟨hleads, hkind'.trans hsame⟩
  | case3 edit below e above hother hkeep n hn kept ih =>
    obtain ⟨i₁, j₁, i₂, j₂, i₃, j₃, habove, he, hedit, hbelow⟩ := leads_edits_up_iff.mp h
    refine ih hkind ?_
    obtain ⟨i₁', j₁', i₂', j₂', hrest, hedit', hkept⟩ := he.slideUp hedit hkeep hkind rfl hn.1
    have hbelow' := leads_keepBelow rfl (.cons hkept hbelow)
    rw [Cursor.edits, reverse_consNonempty]
    exact (habove.append hrest).append (.cons hedit' hbelow')
  | case4 edit below e above hother hkeep n hn => exact ⟨h, rfl⟩
  | case5 edit below e above hother hkeep ih =>
    obtain ⟨i₁, j₁, i₂, j₂, i₃, j₃, habove, he, hedit, hbelow⟩ := leads_edits_up_iff.mp h
    have hswapped := he.swap hedit hother hkeep hkind
    refine ih hkind (habove.append ?_)
    exact hswapped.append hbelow

/-- **Sliding down leads where the script led.** -/
theorem leads_slideDown {c : Cursor} {i j i' j' : Nat} (hkind : c.edit.kind ≠ .keep)
    (h : Leads old new c.edits i j i' j') :
    Leads old new (slideDown old new c).edits i j i' j' ∧
      (slideDown old new c).edit.kind = c.edit.kind := by
  fun_induction slideDown old new c with
  | case1 above edit => exact ⟨h, rfl⟩
  | case2 above edit e below hsame ih =>
    obtain ⟨i₁, j₁, i₂, j₂, i₃, j₃, habove, hedit, he, hbelow⟩ := leads_edits_down_iff.mp h
    exact ih hkind (habove.append (.cons (hedit.longer he hsame.symm) hbelow))
  | case3 above edit e below hother hkeep n hn kept ih =>
    obtain ⟨i₁, j₁, i₂, j₂, i₃, j₃, habove, hedit, he, hbelow⟩ := leads_edits_down_iff.mp h
    refine ih hkind ?_
    obtain ⟨i₁', j₁', i₂', j₂', hkept, hedit', hrest⟩ := hedit.slideDown he hkeep hkind rfl hn.1
    have habove' := leads_keepAbove rfl (habove.append (.single hkept))
    rw [Cursor.edits, consNonempty_eq_append]
    exact habove'.append (.cons hedit' (hrest.append hbelow))
  | case4 above edit e below hother hkeep n hn => exact ⟨h, rfl⟩
  | case5 above edit e below hother hkeep ih =>
    obtain ⟨i₁, j₁, i₂, j₂, i₃, j₃, habove, hedit, he, hbelow⟩ := leads_edits_down_iff.mp h
    have hswapped := hedit.swap he (Ne.symm hother) hkind hkeep
    refine ih hkind ?_
    rw [Cursor.edits, List.reverse_cons, List.append_assoc]
    exact habove.append (hswapped.append hbelow)

/-- **Sliding all edits of a kind leads where the script led.** -/
theorem leads_slideAll {kind : EditKind} (hkind : kind ≠ .keep) {above es : List Edit} {bound : Nat}
    {i j i' j' : Nat} (h : Leads old new (above.reverse ++ es) i j i' j') :
    Leads old new (slideAll kind old new above bound es) i j i' j' := by
  induction bound generalizing above es with
  | zero => exact h
  | succ bound ih =>
    cases es with
    | nil =>
      rw [List.append_nil] at h
      exact h
    | cons e es =>
      rw [slideAll]
      by_cases he : e.kind = kind
      · rw [if_pos he]
        obtain ⟨hup, hkindUp⟩ := leads_slideUp (c := ⟨above, e, es⟩) (he ▸ hkind) h
        obtain ⟨hdown, -⟩ := leads_slideDown (by rw [hkindUp]; exact he ▸ hkind) hup
        refine ih ?_
        rw [List.reverse_cons, List.append_assoc]
        exact hdown
      · rw [if_neg he]
        refine ih ?_
        rw [List.reverse_cons, List.append_assoc]
        exact h

/-- **A compact script leads where the script led.** -/
theorem leads_compact {es : List Edit} {i j i' j' : Nat} (h : Leads old new es i j i' j') :
    Leads old new (compact old new es) i j i' j' := by
  have hdeleted : Leads old new
      (slideAll .delete old new [] (2 * (old.length + new.length) + 1) es) i j i' j' :=
    leads_slideAll (by decide) h
  exact leads_slideAll (by decide) hdeleted

end DocSchema.Diff
