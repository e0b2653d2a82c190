import DocSchema.Proofs.Diff.Blocks
import DocSchema.Proofs.Text.Returns
import DocSchema.Diff.Unified

/-!
# What a unified diff shows

Hunks leave out lines that are kept and no others: every change is in a hunk
(`exists_mem_hunks`), and what the ends of kept blocks have with them, all blocks of hunks
have (`forall_hunks`).  So a line that is only in the old text is shown as removed
(`removed_infix_unified`).

Two facts about the text of a diff follow.  It ends with a line feed
(`getLast?_unified`): the last line that is shown is one of the new text, or the last of
the old one.  And it has carriage returns before line feeds exactly if the old text or the
names have them (`hasReturn_unified_iff`): the new text has none, so the lines of the old
text that end in this way are not kept.
-/
namespace DocSchema.Diff

/-! ## Hunks -/

section Hunks
variable {bs : List Block}

/-- A property of blocks that the ends of kept blocks have with them. -/
structure PassesToEnds (P : Block → Prop) : Prop where
  first : ∀ b, b.kept = true → P b → P (b.first contextSize)
  last : ∀ b, b.kept = true → P b → P (b.last contextSize)

variable {P : Block → Prop}

theorem forall_cutFirst (hP : PassesToEnds P) (h : ∀ b ∈ bs, P b) : ∀ b ∈ cutFirst bs, P b := by
  cases bs with
  | nil => exact h
  | cons b bs =>
    rw [List.forall_mem_cons] at h
    rw [cutFirst]
    by_cases hkept : b.kept = true
    · rw [if_pos hkept]
      exact List.forall_mem_cons.mpr ⟨hP.last b hkept h.1, h.2⟩
    · rw [if_neg hkept]
      exact List.forall_mem_cons.mpr h

theorem forall_cutLast (hP : PassesToEnds P) (h : ∀ b ∈ bs, P b) : ∀ b ∈ cutLast bs, P b := by
  fun_induction cutLast bs with
  | case1 b hkept =>
    rw [List.forall_mem_singleton] at h ⊢
    exact hP.first b hkept h
  | case2 b hkept => exact h
  | case3 b bs hne ih =>
    rw [List.forall_mem_cons] at h ⊢
    exact ⟨h.1, ih h.2⟩
  | case4 => exact h

theorem forall_divide (hP : PassesToEnds P) {met : List Block} (hmet : ∀ b ∈ met, P b)
    (h : ∀ b ∈ bs, P b) : ∀ hunk ∈ divide met bs, ∀ b ∈ hunk, P b := by
  induction bs generalizing met with
  | nil => simpa [divide] using hmet
  | cons b bs ih =>
    rw [List.forall_mem_cons] at h
    rw [divide]
    split
    · rename_i hlarge
      -- A large block is cut: one end closes this hunk and the other opens the next.
      rw [List.forall_mem_cons]
      refine ⟨?_, ih (by simpa using hP.last b hlarge.1 h.1) h.2⟩
      intro b' hb'
      rcases List.mem_cons.mp (List.mem_reverse.mp hb') with rfl | hmem
      · exact hP.first b hlarge.1 h.1
      · exact hmet b' hmem
    · exact ih (List.forall_mem_cons.mpr ⟨h.1, hmet⟩) h.2

/-- **What passes to the ends of kept blocks passes to hunks.** -/
theorem forall_hunks (hP : PassesToEnds P) (h : ∀ b ∈ bs, P b) :
    ∀ hunk ∈ hunks bs, ∀ b ∈ hunk, P b := by
  intro hunk hhunk
  have hcut := forall_cutLast hP (forall_cutFirst hP h)
  exact forall_divide hP (fun _ hb => absurd hb List.not_mem_nil) hcut hunk
    (List.mem_filter.mp hhunk).1

theorem mem_cutFirst {b : Block} (hb : b.kept = false) (h : b ∈ bs) : b ∈ cutFirst bs := by
  cases bs with
  | nil => exact h
  | cons b' bs =>
    rw [cutFirst]
    by_cases hkept : b'.kept = true
    · rw [if_pos hkept]
      rcases List.mem_cons.mp h with rfl | hmem
      · rw [hb] at hkept
        cases hkept
      · exact List.mem_cons_of_mem _ hmem
    · rw [if_neg hkept]
      exact h

theorem mem_cutLast {b : Block} (hb : b.kept = false) (h : b ∈ bs) : b ∈ cutLast bs := by
  fun_induction cutLast bs with
  | case1 b' hkept =>
    obtain rfl := List.mem_singleton.mp h
    rw [hb] at hkept
    cases hkept
  | case2 => exact h
  | case3 b' bs hne ih =>
    rcases List.mem_cons.mp h with rfl | hmem
    · exact List.mem_cons_self
    · exact List.mem_cons_of_mem _ (ih hmem)
  | case4 => exact h

theorem exists_mem_divide {met : List Block} {b : Block} (hb : b.kept = false)
    (h : b ∈ met ∨ b ∈ bs) : ∃ hunk ∈ divide met bs, b ∈ hunk := by
  induction bs generalizing met with
  | nil =>
    have hmem : b ∈ met := by simpa using h
    exact ⟨met.reverse, by simp [divide], List.mem_reverse.mpr hmem⟩
  | cons b' bs ih =>
    rw [divide]
    split
    · rename_i hlarge
      rcases h with hmet | hbs
      · exact ⟨_, List.mem_cons_self, List.mem_reverse.mpr (List.mem_cons_of_mem _ hmet)⟩
      · rcases List.mem_cons.mp hbs with rfl | hmem
        · rw [hb] at hlarge
          cases hlarge.1
        · have hrest : b ∈ [b'.last contextSize] ∨ b ∈ bs := .inr hmem
          obtain ⟨hunk, hhunk, hin⟩ := ih hrest
          exact ⟨hunk, List.mem_cons_of_mem _ hhunk, hin⟩
    · refine ih ?_
      rcases h with hmet | hbs
      · exact .inl (List.mem_cons_of_mem _ hmet)
      · rcases List.mem_cons.mp hbs with rfl | hmem
        · exact .inl List.mem_cons_self
        · exact .inr hmem

/-- **Every change is in a hunk.** -/
theorem exists_mem_hunks {b : Block} (hb : b.kept = false) (h : b ∈ bs) :
    ∃ hunk ∈ hunks bs, b ∈ hunk := by
  have hcut : b ∈ [] ∨ b ∈ cutLast (cutFirst bs) := .inr (mem_cutLast hb (mem_cutFirst hb h))
  obtain ⟨hunk, hhunk, hin⟩ := exists_mem_divide hb hcut
  refine ⟨hunk, List.mem_filter.mpr ⟨hhunk, ?_⟩, hin⟩
  exact List.any_eq_true.mpr ⟨b, hin, by rw [hb]; rfl⟩

theorem getLast?_cutFirst {b : Block} (h : (cutFirst bs).getLast? = some b) :
    b.kept = true ∨ bs.getLast? = some b := by
  cases bs with
  | nil => exact .inr h
  | cons b' bs =>
    rw [cutFirst] at h
    by_cases hkept : b'.kept = true
    · rw [if_pos hkept] at h
      cases bs with
      | nil =>
        obtain rfl := Option.some.inj h
        exact .inl hkept
      | cons next bs =>
        rw [List.getLast?_cons_cons] at h ⊢
        exact .inr h
    · rw [if_neg hkept] at h
      exact .inr h

theorem cutLast_eq_nil (h : cutLast bs = []) : bs = [] := by
  fun_cases cutLast bs <;> simp_all [cutLast]

theorem getLast?_cutLast {b : Block} (h : (cutLast bs).getLast? = some b) :
    b.kept = true ∨ bs.getLast? = some b := by
  fun_induction cutLast bs with
  | case1 b' hkept =>
    obtain rfl := Option.some.inj h
    exact .inl hkept
  | case2 => exact .inr h
  | case3 b' bs hne ih =>
    rw [List.getLast?_cons] at h ⊢
    cases hlast : (cutLast bs).getLast? with
    | some b₁ =>
      rw [hlast] at h ih
      obtain rfl := Option.some.inj h
      rcases ih rfl with hkept | hsame
      · exact .inl hkept
      · right
        rw [hsame, Option.getD_some]
    | none =>
      rw [hlast] at h
      have hnil : bs = [] := cutLast_eq_nil (List.getLast?_eq_none_iff.mp hlast)
      rw [hnil]
      exact .inr h
  | case4 => exact .inr h

theorem getLast?_divide {met hunk : List Block} {b : Block} (hhunk : hunk ∈ divide met bs)
    (h : hunk.getLast? = some b) : b.kept = true ∨ (met.reverse ++ bs).getLast? = some b := by
  induction bs generalizing met with
  | nil =>
    obtain rfl := List.mem_singleton.mp hhunk
    rw [List.append_nil]
    exact .inr h
  | cons b' bs ih =>
    rw [divide] at hhunk
    split at hhunk
    · rename_i hlarge
      rcases List.mem_cons.mp hhunk with rfl | hrest
      · rw [List.reverse_cons, List.getLast?_concat] at h
        obtain rfl := Option.some.inj h
        exact .inl hlarge.1
      · rcases ih hrest with hkept | hlast
        · exact .inl hkept
        · cases bs with
          | nil =>
            obtain rfl := Option.some.inj hlast
            exact .inl hlarge.1
          | cons next bs =>
            right
            simpa using hlast
    · rw [← List.singleton_append, ← List.append_assoc, ← List.reverse_cons]
      exact ih hhunk

/-- **A hunk ends with a kept block, or with the last of all blocks.** -/
theorem getLast?_hunks {hunk : List Block} {b : Block} (hhunk : hunk ∈ hunks bs)
    (h : hunk.getLast? = some b) : b.kept = true ∨ bs.getLast? = some b := by
  rcases getLast?_divide (List.mem_filter.mp hhunk).1 h with hkept | hlast
  · exact .inl hkept
  · rw [List.reverse_nil, List.nil_append] at hlast
    rcases getLast?_cutLast hlast with hkept | hlast
    · exact .inl hkept
    · exact getLast?_cutFirst hlast

end Hunks

/-! ## The text of a diff -/

/-- A kept block whose elements are in both lists. -/
def Block.IsShared {α : Type} (old new : List α) (b : Block) : Prop :=
  b.kept = true → 0 < b.oldSize ∧ b.old + b.oldSize ≤ old.length ∧ ∀ x ∈ b.oldPart old, x ∈ new

/-- The ends of a shared block are shared. -/
theorem passesToEnds_isShared {α : Type} (old new : List α) :
    PassesToEnds (Block.IsShared old new) := by
  constructor
  · intro b hkept hshared _
    obtain ⟨hpos, hinside, hmem⟩ := hshared hkept
    have hpart : (b.first contextSize).oldPart old = (b.oldPart old).take contextSize := by
      rw [Block.oldPart, Block.oldPart, List.take_take]
      rfl
    refine ⟨?_, ?_, fun x hx => hmem x (List.mem_of_mem_take (hpart ▸ hx))⟩
    · simp only [Block.first, contextSize]
      omega
    · simp only [Block.first, contextSize]
      omega
  · intro b hkept hshared _
    obtain ⟨hpos, hinside, hmem⟩ := hshared hkept
    have hpart : (b.last contextSize).oldPart old =
        (b.oldPart old).drop (b.oldSize - contextSize) := by
      rw [Block.oldPart, Block.oldPart, List.drop_take, List.drop_drop, Nat.sub_sub_eq_min,
        Nat.min_comm]
      rfl
    refine ⟨?_, ?_, fun x hx => hmem x (List.mem_of_mem_drop (hpart ▸ hx))⟩
    · simp only [Block.last, contextSize]
      omega
    · simp only [Block.last, contextSize]
      omega

theorem Describes.isShared {α : Type} {old new : List α} {bs : List Block}
    (h : Describes old new bs) : ∀ b ∈ bs, b.IsShared old new := by
  intro b hb hkept
  obtain ⟨hpos, hinside, hparts⟩ := h.kept b hb hkept
  refine ⟨hpos, hinside, fun x hx => ?_⟩
  rw [← h.new_eq]
  exact List.mem_flatMap.mpr ⟨b, hb, hparts ▸ hx⟩

/-- Lists that differ have a changed block between them. -/
theorem Describes.exists_changed {α : Type} {old new : List α} {bs : List Block}
    (h : Describes old new bs) (hne : old ≠ new) : ∃ b ∈ bs, b.kept = false := by
  by_contra hnone
  have hkept : ∀ b ∈ bs, b.kept = true := by
    intro b hb
    cases hb' : b.kept with
    | true => rfl
    | false => exact absurd ⟨b, hb, hb'⟩ hnone
  refine hne ?_
  calc old = bs.flatMap (Block.oldPart old) := h.old_eq.symm
    _ = bs.flatMap (Block.newPart new) :=
      List.flatMap_congr fun b hb => (h.kept b hb (hkept b hb)).2.2
    _ = new := h.new_eq

/-- A list ends like the last of its parts. -/
theorem getLast?_flatMap_of_last {α β : Type} {l : List α} {f : α → List β} {a : α} {y : β}
    (hl : l.getLast? = some a) (ha : (f a).getLast? = some y) :
    (l.flatMap f).getLast? = some y := by
  obtain ⟨front, rfl⟩ := List.getLast?_eq_some_iff.mp hl
  rw [List.flatMap_append, List.flatMap_singleton, List.getLast?_append, ha]
  rfl

/-- A list holds each of its parts. -/
theorem infix_flatMap {α β : Type} {l : List α} {f : α → List β} {a : α} (h : a ∈ l) :
    f a <:+: l.flatMap f := by
  rw [List.flatMap_def]
  exact List.infix_of_mem_flatten (List.mem_map_of_mem h)

/-- The lines that name the two texts. -/
def fileHeads (oldName newName : String) : List Char :=
  ['-', '-', '-', ' '] ++ oldName.toList ++ ['\n', '+', '+', '+', ' '] ++ newName.toList ++ ['\n']

/-- The text of a hunk. -/
def hunkText (old new : List (List Char)) (hunk : List Block) : List Char :=
  hunkHead hunk ++ hunk.flatMap (blockText old new)

section Text
variable {oldName newName : String} {oldText newText : List Char}

theorem blockText_kept {old new : List (List Char)} {b : Block} (h : b.kept = true) :
    blockText old new b = (b.oldPart old).flatMap (markedLine ' ') := by
  rw [blockText, if_pos h]
  rfl

theorem blockText_changed {old new : List (List Char)} {b : Block} (h : b.kept = false) :
    blockText old new b =
      (b.oldPart old).flatMap (markedLine '-') ++ (b.newPart new).flatMap (markedLine '+') := by
  rw [blockText, if_neg (by simp [h])]
  rfl

theorem unified_eq (h : hunks (compare (linesOf oldText) (linesOf newText)) ≠ []) :
    unified oldName newName oldText newText = fileHeads oldName newName ++
      (hunks (compare (linesOf oldText) (linesOf newText))).flatMap
        (hunkText (linesOf oldText) (linesOf newText)) := by
  rw [unified]
  split
  · rename_i hnil
    exact absurd hnil h
  · rfl

/-- Texts that differ have a hunk between them. -/
theorem hunks_ne_nil (hne : oldText ≠ newText) :
    hunks (compare (linesOf oldText) (linesOf newText)) ≠ [] := by
  have hlines : linesOf oldText ≠ linesOf newText := by
    intro heq
    have hflat := congrArg List.flatten heq
    rw [flatten_linesOf, flatten_linesOf] at hflat
    exact hne hflat
  obtain ⟨b, hb, hchanged⟩ := (describes_compare _ _).exists_changed hlines
  obtain ⟨hunk, hhunk, -⟩ := exists_mem_hunks hchanged hb
  exact List.ne_nil_of_mem hhunk

/-- **A line that is only in the old text is shown as removed.** -/
theorem removed_infix_unified {line : List Char} (hold : line ∈ linesOf oldText)
    (hnew : line ∉ linesOf newText) :
    markedLine '-' line <:+: unified oldName newName oldText newText := by
  have hdescribes := describes_compare (linesOf oldText) (linesOf newText)
  rw [← hdescribes.old_eq] at hold
  obtain ⟨b, hb, hline⟩ := List.mem_flatMap.mp hold
  have hchanged : b.kept = false := by
    cases hkept : b.kept with
    | false => rfl
    | true =>
      obtain ⟨-, -, hmem⟩ := hdescribes.isShared b hb hkept
      exact absurd (hmem line hline) hnew
  obtain ⟨hunk, hhunk, hin⟩ := exists_mem_hunks hchanged hb
  have hblock : markedLine '-' line <:+: blockText (linesOf oldText) (linesOf newText) b := by
    rw [blockText_changed hchanged]
    exact (infix_flatMap hline).trans (List.prefix_append _ _).isInfix
  have hinHunk : markedLine '-' line <:+: hunkText (linesOf oldText) (linesOf newText) hunk :=
    (hblock.trans (infix_flatMap hin)).trans (List.suffix_append _ _).isInfix
  rw [unified_eq (List.ne_nil_of_mem hhunk)]
  exact (hinHunk.trans (infix_flatMap hhunk)).trans (List.suffix_append _ _).isInfix

theorem getLast?_markedLine {mark : Char} {line : List Char} (h : line.getLast? ≠ some '\r') :
    (markedLine mark line).getLast? = some '\n' := by
  rw [markedLine]
  cases hlast : line.getLast? with
  | none =>
    rw [List.getLast?_eq_none_iff.mp hlast]
    rfl
  | some c =>
    by_cases hfeed : c = '\n'
    · rw [if_pos (by simp [hfeed]), List.getLast?_cons, hlast, hfeed]
      rfl
    · have hreturn : c ≠ '\r' := by
        rintro rfl
        exact h hlast
      rw [if_neg (by simp [hfeed, hreturn]), List.getLast?_cons, List.getLast?_append]
      rfl

/-- A block ends with a line feed if it is shared, or the last of all blocks. -/
theorem getLast?_blockText {b : Block} {bs : List Block}
    (hdescribes : Describes (linesOf oldText) (linesOf newText) bs)
    (hshared : b.IsShared (linesOf oldText) (linesOf newText))
    (hb : b.kept = true ∨ bs.getLast? = some b) (hold : oldText.getLast? ≠ some '\r')
    (hnew : ∀ line ∈ linesOf newText, line.getLast? = some '\n') :
    (blockText (linesOf oldText) (linesOf newText) b).getLast? = some '\n' := by
  have hmarked : ∀ {mark : Char} {line : List Char}, line ∈ linesOf newText →
      (markedLine mark line).getLast? = some '\n' := by
    intro mark line hline
    refine getLast?_markedLine ?_
    rw [hnew line hline]
    decide
  cases hkept : b.kept with
  | true =>
    obtain ⟨hpos, hinside, hmem⟩ := hshared hkept
    rw [blockText_kept hkept]
    obtain ⟨line, hline⟩ := Option.isSome_iff_exists.mp
      (List.getLast?_isSome.mpr (take_drop_ne_nil hpos hinside))
    exact getLast?_flatMap_of_last hline (hmarked (hmem line (List.mem_of_getLast? hline)))
  | false =>
    have hlast : bs.getLast? = some b := by
      rcases hb with hkept' | hlast
      · rw [hkept] at hkept'
        cases hkept'
      · exact hlast
    have hmem := List.mem_of_getLast? hlast
    rw [blockText_changed hkept, List.getLast?_append]
    cases hline : (b.newPart (linesOf newText)).getLast? with
    | some line =>
      -- The last line that is shown is one of the new text.
      have hin : line ∈ linesOf newText := by
        rw [← hdescribes.new_eq]
        exact List.mem_flatMap.mpr ⟨b, hmem, List.mem_of_getLast? hline⟩
      rw [getLast?_flatMap_of_last hline (hmarked hin)]
      rfl
    | none =>
      -- It is the last one of the old text.
      have hnil := List.getLast?_eq_none_iff.mp hline
      obtain ⟨line, hline'⟩ := Option.isSome_iff_exists.mp
        (List.getLast?_isSome.mpr ((hdescribes.changed b hmem hkept).resolve_right (· hnil)))
      have hends : line.getLast? ≠ some '\r' := by
        intro hreturn
        have hlines : (linesOf oldText).getLast? = some line := by
          rw [← hdescribes.old_eq]
          exact getLast?_flatMap_of_last hlast hline'
        have htext := getLast?_flatMap_of_last (f := id) hlines hreturn
        rw [List.flatMap_id, flatten_linesOf] at htext
        exact hold htext
      rw [hnil, getLast?_flatMap_of_last hline' (getLast?_markedLine hends)]
      rfl

/-- **A diff ends with a line feed**, unless the old text ends with a carriage return. -/
theorem getLast?_unified (hne : oldText ≠ newText) (hold : oldText.getLast? ≠ some '\r')
    (hnew : ∀ line ∈ linesOf newText, line.getLast? = some '\n') :
    (unified oldName newName oldText newText).getLast? = some '\n' := by
  have hdescribes := describes_compare (linesOf oldText) (linesOf newText)
  have hhunks := hunks_ne_nil hne
  obtain ⟨hunk, hlast⟩ := Option.isSome_iff_exists.mp (List.getLast?_isSome.mpr hhunks)
  have hhunk := List.mem_of_getLast? hlast
  obtain ⟨changed, hchanged, -⟩ := List.any_eq_true.mp (List.mem_filter.mp hhunk).2
  obtain ⟨b, hb⟩ := Option.isSome_iff_exists.mp
    (List.getLast?_isSome.mpr (List.ne_nil_of_mem hchanged))
  have hshared := forall_hunks (passesToEnds_isShared _ _) hdescribes.isShared hunk hhunk b
    (List.mem_of_getLast? hb)
  have hblock := getLast?_blockText hdescribes hshared (getLast?_hunks hhunk hb) hold hnew
  have htext : (hunkText (linesOf oldText) (linesOf newText) hunk).getLast? = some '\n' := by
    rw [hunkText, List.getLast?_append, getLast?_flatMap_of_last hb hblock]
    rfl
  rw [unified_eq hhunks, List.getLast?_append, getLast?_flatMap_of_last hlast htext]
  rfl

/-- If every line of a text ends with a line feed alone, so does each that it is divided into. -/
theorem getLast?_of_mem_linesOf {text : List Char} (hreturn : '\r' ∉ text)
    (hlast : ∀ c, text.getLast? = some c → c = '\n') :
    ∀ line ∈ linesOf text, line.getLast? = some '\n' := by
  fun_induction linesOf text with
  | case1 => exact fun _ h => absurd h List.not_mem_nil
  | case2 rest => exact absurd List.mem_cons_self hreturn
  | case3 c rest hne hend ih =>
    rw [List.mem_cons, not_or] at hreturn
    have hrest : ∀ d, rest.getLast? = some d → d = '\n' := by
      intro d hd
      apply hlast
      rw [List.getLast?_cons, hd, Option.getD_some]
    have hc : c = '\n' := hend.resolve_right (Ne.symm hreturn.1)
    exact List.forall_mem_cons.mpr ⟨by rw [hc]; rfl, ih hreturn.2 hrest⟩
  | case4 c rest hne hopen hnone ih =>
    -- There is no line without an end.
    have hnil : rest = [] := by rw [← flatten_linesOf rest, hnone, List.flatten_nil]
    rw [hnil] at hlast
    exact absurd (.inl (hlast c rfl)) hopen
  | case5 c rest hne hopen first more hlines ih =>
    rw [List.mem_cons, not_or] at hreturn
    have hrest : ∀ d, rest.getLast? = some d → d = '\n' := by
      intro d hd
      apply hlast
      rw [List.getLast?_cons, hd, Option.getD_some]
    have hlater := ih hreturn.2 hrest
    rw [hlines, List.forall_mem_cons] at hlater
    refine List.forall_mem_cons.mpr ⟨?_, hlater.2⟩
    rw [List.getLast?_cons, hlater.1, Option.getD_some]

/-! ## Carriage returns in a diff -/

theorem return_not_mem_rangeText (first last : Nat) : '\r' ∉ rangeText first last := by
  have hdigits : ∀ n, '\r' ∉ Nat.toDigits 10 n := by
    intro n hmem
    exact absurd (Nat.isDigit_of_mem_toDigits (by decide) (by decide) hmem) (by decide)
  rw [rangeText]
  split <;> simp [hdigits]

theorem isReturnFree_hunkHead (hunk : List Block) : IsReturnFree (hunkHead hunk) := by
  rw [hunkHead]
  split
  · refine ⟨not_hasReturn_of_not_mem ?_, by simp⟩
    simp [return_not_mem_rangeText]
  · exact .nil

theorem isReturnFree_markedLine {mark : Char} {line : List Char} (hmark : mark ∉ ['\n', '\r'])
    (hline : ¬ HasReturn line) : IsReturnFree (markedLine mark line) := by
  rw [List.mem_cons, List.mem_singleton, not_or] at hmark
  refine ⟨?_, by simp [markedLine, hmark.1]⟩
  rw [markedLine, hasReturn_cons_iff, not_or]
  refine ⟨fun h => hmark.2 h.1, ?_⟩
  split
  · exact hline
  · rename_i hopen
    -- No carriage return at the end meets the line feed that is put after the line.
    have hlast : line.getLast? ≠ some '\r' := by
      intro hlast
      rw [hlast] at hopen
      exact hopen rfl
    rw [hasReturn_append_iff]
    rintro (h | h | ⟨hreturn, -⟩)
    · exact hline h
    · exact not_hasReturn_of_not_mem (by decide) h
    · exact hlast hreturn

/-- A text holds each of its lines. -/
theorem infix_of_mem_linesOf {line text : List Char} (h : line ∈ linesOf text) :
    line <:+: text := by
  have hflat := List.infix_of_mem_flatten h
  rwa [flatten_linesOf] at hflat

theorem isReturnFree_blockText (b : Block) (hold : ¬ HasReturn oldText)
    (hnew : ¬ HasReturn newText) :
    IsReturnFree (blockText (linesOf oldText) (linesOf newText) b) := by
  have hlines : ∀ {text : List Char} {i n : Nat}, ¬ HasReturn text →
      ∀ line ∈ ((linesOf text).drop i).take n, ¬ HasReturn line := by
    intro text i n htext line hline hreturn
    have hmem := List.mem_of_mem_drop (List.mem_of_mem_take hline)
    exact htext (hreturn.of_infix (infix_of_mem_linesOf hmem))
  cases hkept : b.kept with
  | true =>
    rw [blockText_kept hkept]
    exact .flatMap fun line hline => isReturnFree_markedLine (by decide) (hlines hold line hline)
  | false =>
    rw [blockText_changed hkept]
    exact .append
      (.flatMap fun line hline => isReturnFree_markedLine (by decide) (hlines hold line hline))
      (.flatMap fun line hline => isReturnFree_markedLine (by decide) (hlines hnew line hline))

/-- Where a carriage return stands before a line feed, one line has both. -/
theorem exists_line_of_hasReturn {text : List Char} (h : HasReturn text) :
    ∃ line ∈ linesOf text, HasReturn line := by
  fun_induction linesOf text with
  | case1 => exact absurd h not_hasReturn_nil
  | case2 rest => exact ⟨_, List.mem_cons_self, List.infix_refl _⟩
  | case3 c rest hne hend ih =>
    rcases hasReturn_cons_iff.mp h with ⟨hc, hhead⟩ | hrest
    · -- Together the two end a line, which is the case before.
      obtain ⟨more, hmore⟩ := List.head?_eq_some_iff.mp hhead
      exact absurd hmore (hne more hc)
    · obtain ⟨line, hline, hreturn⟩ := ih hrest
      exact ⟨line, List.mem_cons_of_mem _ hline, hreturn⟩
  | case4 c rest hne hopen hnone ih =>
    rcases hasReturn_cons_iff.mp h with ⟨hc, -⟩ | hrest
    · exact absurd (.inr hc) hopen
    · obtain ⟨line, hline, -⟩ := ih hrest
      rw [hnone] at hline
      cases hline
  | case5 c rest hne hopen first more hlines ih =>
    rcases hasReturn_cons_iff.mp h with ⟨hc, -⟩ | hrest
    · exact absurd (.inr hc) hopen
    · obtain ⟨line, hline, hreturn⟩ := ih hrest
      rw [hlines] at hline
      rcases List.mem_cons.mp hline with rfl | hmore
      · exact ⟨_, List.mem_cons_self, hasReturn_cons_iff.mpr (.inr hreturn)⟩
      · exact ⟨line, List.mem_cons_of_mem _ hmore, hreturn⟩

/-- **A diff has the carriage returns of its names and texts**, as far as they stand before line
feeds. -/
theorem hasReturn_unified_iff (hne : oldText ≠ newText) (hnew : '\r' ∉ newText) :
    HasReturn (unified oldName newName oldText newText) ↔
      HasReturn (fileHeads oldName newName) ∨ HasReturn oldText := by
  constructor
  · intro h
    by_contra hnone
    rw [not_or] at hnone
    rw [unified_eq (hunks_ne_nil hne)] at h
    have hhunks : IsReturnFree ((hunks (compare (linesOf oldText) (linesOf newText))).flatMap
        (hunkText (linesOf oldText) (linesOf newText))) :=
      .flatMap fun hunk _ => (isReturnFree_hunkHead hunk).append
        (.flatMap fun b _ => isReturnFree_blockText b hnone.2 (not_hasReturn_of_not_mem hnew))
    rcases hasReturn_append_iff.mp h with h | h | ⟨-, hhead⟩
    · exact hnone.1 h
    · exact hhunks.inside h
    · exact hhunks.start hhead
  · rintro (hnames | htext)
    · rw [unified_eq (hunks_ne_nil hne)]
      exact hnames.of_infix (List.prefix_append _ _).isInfix
    · obtain ⟨line, hline, hreturn⟩ := exists_line_of_hasReturn htext
      -- The new text has no such line, so it is shown.
      have hgone : line ∉ linesOf newText := by
        intro hmem
        exact not_hasReturn_of_not_mem hnew (hreturn.of_infix (infix_of_mem_linesOf hmem))
      have hshown : HasReturn (markedLine '-' line) := by
        rw [markedLine]
        apply hasReturn_cons_iff.mpr
        right
        split
        · exact hreturn
        · exact hreturn.of_infix (List.prefix_append _ _).isInfix
      exact hshown.of_infix (removed_infix_unified hline hgone)

end Text

end DocSchema.Diff
