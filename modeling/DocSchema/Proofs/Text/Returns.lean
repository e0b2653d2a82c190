import DocSchema.Proofs.Text.Lines

/-!
# Carriage returns before line feeds

A text that is divided into lines and put together again, each line with a line feed, has lost its
carriage returns before line feeds (`flatMap_split`).  Nothing is lost exactly if there are none
(`dropReturns_eq_self_iff`).
-/
namespace DocSchema

/-- Somewhere a carriage return stands before a line feed. -/
def HasReturn (s : List Char) : Prop := ['\r', '\n'] <:+: s

/-- A text without the carriage returns that stand before line feeds. -/
def dropReturns : List Char → List Char
  | '\r' :: '\n' :: rest => '\n' :: dropReturns rest
  | c :: rest => c :: dropReturns rest
  | [] => []

theorem not_hasReturn_nil : ¬ HasReturn [] := by
  rintro ⟨front, back, h⟩
  simp at h

theorem hasReturn_cons_iff {c : Char} {s : List Char} :
    HasReturn (c :: s) ↔ (c = '\r' ∧ s.head? = some '\n') ∨ HasReturn s := by
  unfold HasReturn
  rw [List.infix_cons_iff, List.cons_prefix_cons]
  cases s with
  | nil => simp
  | cons d s => simp [List.cons_prefix_cons, eq_comm]

theorem HasReturn.of_infix {s t : List Char} (h : HasReturn s) (hst : s <:+: t) : HasReturn t :=
  List.IsInfix.trans h hst

theorem not_hasReturn_of_not_mem {s : List Char} (h : '\r' ∉ s) : ¬ HasReturn s :=
  fun hreturn => h (hreturn.subset List.mem_cons_self)

/-- Putting texts together brings a carriage return before a line feed only where they meet. -/
theorem hasReturn_append_iff {s t : List Char} :
    HasReturn (s ++ t) ↔
      HasReturn s ∨ HasReturn t ∨ (s.getLast? = some '\r' ∧ t.head? = some '\n') := by
  induction s with
  | nil => simp [not_hasReturn_nil]
  | cons c s ih =>
    rw [List.cons_append, hasReturn_cons_iff, hasReturn_cons_iff, ih]
    cases s with
    | nil => simp [not_hasReturn_nil, or_comm]
    | cons d s =>
      rw [List.getLast?_cons_cons, List.cons_append, List.head?_cons, List.head?_cons, or_assoc]

theorem hasReturn_append_of_not_mem {s t : List Char} (hs : '\r' ∉ s) :
    HasReturn (s ++ t) ↔ HasReturn t := by
  rw [hasReturn_append_iff]
  constructor
  · rintro (h | h | ⟨hlast, -⟩)
    · exact absurd h (not_hasReturn_of_not_mem hs)
    · exact h
    · exact absurd (List.mem_of_getLast? hlast) hs
  · intro h
    exact .inr (.inl h)

/-! ## Texts made of parts -/

/-- A text that brings no carriage return before a line feed, whatever it is put after. -/
structure IsReturnFree (s : List Char) : Prop where
  inside : ¬ HasReturn s
  start : s.head? ≠ some '\n'

namespace IsReturnFree
variable {s t : List Char}

theorem nil : IsReturnFree [] := ⟨not_hasReturn_nil, by simp⟩

theorem append (hs : IsReturnFree s) (ht : IsReturnFree t) : IsReturnFree (s ++ t) := by
  refine ⟨?_, ?_⟩
  · rw [hasReturn_append_iff]
    rintro (h | h | ⟨-, hhead⟩)
    · exact hs.inside h
    · exact ht.inside h
    · exact ht.start hhead
  · cases s with
    | nil => exact ht.start
    | cons c s => exact hs.start

theorem flatMap {α : Type} {l : List α} {f : α → List Char} (h : ∀ a ∈ l, IsReturnFree (f a)) :
    IsReturnFree (l.flatMap f) := by
  induction l with
  | nil => exact nil
  | cons a l ih =>
    rw [List.forall_mem_cons] at h
    rw [List.flatMap_cons]
    exact h.1.append (ih h.2)

end IsReturnFree

/-! ## Dropping carriage returns -/

/-- A character that begins no carriage return before a line feed is not dropped. -/
theorem dropReturns_cons {c : Char} {s : List Char} (h : ¬ (c = '\r' ∧ s.head? = some '\n')) :
    dropReturns (c :: s) = c :: dropReturns s := by
  refine dropReturns.eq_2 c s fun rest hc hs => h ⟨hc, ?_⟩
  rw [hs, List.head?_cons]

theorem dropReturns_of_not {s : List Char} (h : ¬ HasReturn s) : dropReturns s = s := by
  induction s with
  | nil => rfl
  | cons c s ih =>
    rw [hasReturn_cons_iff, not_or] at h
    rw [dropReturns_cons h.1, ih h.2]

/-- Dropping carriage returns leaves fewer of them. -/
theorem count_dropReturns_le (s : List Char) : (dropReturns s).count '\r' ≤ s.count '\r' := by
  fun_induction dropReturns s with
  | case1 rest ih =>
    simp only [List.count_cons]
    simp
    omega
  | case2 c rest _ ih =>
    simp only [List.count_cons]
    omega
  | case3 => exact Nat.le_refl _

theorem count_dropReturns_lt {s : List Char} (h : HasReturn s) :
    (dropReturns s).count '\r' < s.count '\r' := by
  fun_induction dropReturns s with
  | case1 rest ih =>
    have hle := count_dropReturns_le rest
    simp only [List.count_cons]
    simp
    omega
  | case2 c rest hne ih =>
    rcases hasReturn_cons_iff.mp h with ⟨hc, hhead⟩ | hrest
    · obtain ⟨more, hmore⟩ := List.head?_eq_some_iff.mp hhead
      exact absurd hmore (hne more hc)
    · have hlt := ih hrest
      simp only [List.count_cons]
      omega
  | case3 => exact absurd h not_hasReturn_nil

theorem dropReturns_eq_self_iff {s : List Char} : dropReturns s = s ↔ ¬ HasReturn s := by
  constructor
  · intro heq hreturn
    have hlt := count_dropReturns_lt hreturn
    rw [heq] at hlt
    exact Nat.lt_irrefl _ hlt
  · exact dropReturns_of_not

/-! ## Lines put together again -/

/-- The first line of a text. -/
theorem dropReturns_line {line : List Char} (rest : List Char) (h : '\n' ∉ line) :
    dropReturns (line ++ '\n' :: rest) =
      Lines.dropReturn '\r' (line, true) ++ '\n' :: dropReturns rest := by
  induction line with
  | nil => rfl
  | cons c line ih =>
    rw [List.mem_cons, not_or] at h
    cases line with
    | nil =>
      by_cases hc : c = '\r'
      · subst hc
        rfl
      · rw [List.singleton_append, dropReturns_cons (fun h => hc h.1)]
        simp [Lines.dropReturn, hc, dropReturns]
    | cons d line =>
      have hd : ¬ (c = '\r' ∧ (d :: line ++ '\n' :: rest).head? = some '\n') := by
        rintro ⟨-, hhead⟩
        exact h.2 (Option.some.inj hhead ▸ List.mem_cons_self)
      rw [List.cons_append, dropReturns_cons hd, ih h.2]
      simp only [Lines.dropReturn, List.getLast?_cons_cons]
      split <;> rfl

/-- **Lines put together again.**  If each line of a text is given a line feed, what is missing are
the carriage returns before line feeds. -/
theorem flatMap_split {s : List Char} (h : ∀ c, s.getLast? = some c → c = '\n') :
    (Lines.split '\n' '\r' s).flatMap (· ++ ['\n']) = dropReturns s := by
  have hcut := Lines.isCut_cut '\n' s
  rw [Lines.split]
  generalize Lines.cut '\n' s = pieces at hcut
  induction hcut with
  | nil => rfl
  | @last line hfeed hne =>
    obtain ⟨c, hc⟩ := Option.isSome_iff_exists.mp (List.getLast?_isSome.mpr hne)
    obtain rfl := h c hc
    exact absurd (List.mem_of_getLast? hc) hfeed
  | @line line rest pieces hfeed _ ih =>
    have hrest : ∀ c, rest.getLast? = some c → c = '\n' := by
      intro c hc
      apply h
      rw [List.getLast?_append, List.getLast?_cons, hc]
      rfl
    rw [dropReturns_line rest hfeed, List.map_cons, List.flatMap_cons, ih hrest, List.append_assoc]
    rfl

/-- A carriage return at the end of a text is at the end of a line. -/
theorem exists_line_of_getLast? {s : List Char} (h : s.getLast? = some '\r') :
    ∃ line ∈ Lines.split '\n' '\r' s, line.getLast? = some '\r' := by
  have hcut := Lines.isCut_cut '\n' s
  rw [Lines.split]
  generalize Lines.cut '\n' s = pieces at hcut
  induction hcut with
  | nil => cases h
  | @last line _ _ => exact ⟨line, by simp [Lines.dropReturn], h⟩
  | @line line rest pieces _ _ ih =>
    have hrest : rest.getLast? = some '\r' := by
      rw [List.getLast?_append, List.getLast?_cons, Option.some_or] at h
      cases hlast : rest.getLast? with
      | none =>
        rw [hlast] at h
        cases h
      | some c =>
        rw [hlast] at h
        exact h
    obtain ⟨line', hline', hreturn⟩ := ih hrest
    exact ⟨line', List.mem_cons_of_mem _ hline', hreturn⟩

theorem mem_of_mem_dropReturns {s : List Char} {c : Char} (h : c ∈ dropReturns s) : c ∈ s := by
  fun_induction dropReturns s with
  | case1 rest ih =>
    rcases List.mem_cons.mp h with rfl | hrest
    · simp
    · simp [ih hrest]
  | case2 d rest _ ih =>
    rcases List.mem_cons.mp h with rfl | hrest
    · exact List.mem_cons_self
    · exact List.mem_cons_of_mem _ (ih hrest)
  | case3 => exact h

end DocSchema
