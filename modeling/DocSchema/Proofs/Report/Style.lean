import DocSchema.Diff.Unified
import DocSchema.Proofs.Text.Returns

/-!
# Styles add escape sequences

A styled text is the text with escape sequences in it (`IsStyled`).  They hold no line
feed and no carriage return, so both are as often in the styled text as in the text
(`IsStyled.count_eq`); and if the text has no escape character itself, removing the
sequences gives it back (`IsStyled.stripCodes_eq`).

A diff in colours is the diff with its lines styled one by one.  Between the lines it has
line feeds only, so it is what is left of the diff without its carriage returns
(`isStyled_colored`), and more than escape sequences makes the difference if there were any
(`isStyled_colored_iff`).
-/
namespace DocSchema

/-- The escape sequences that a diff in colours has. -/
def diffCodes : List (List Char) :=
  [Style.escape Style.bold.code, Style.escape Style.green.code, Style.escape Style.red.code,
    Style.escape Style.cyan.code, Style.reset]

/-- **A text with escape sequences in it** and otherwise unchanged. -/
inductive IsStyled : List Char → List Char → Prop where
  | nil : IsStyled [] []
  | char {s t : List Char} (c : Char) : IsStyled s t → IsStyled (c :: s) (c :: t)
  | code {s t code : List Char} : code ∈ diffCodes → IsStyled s t → IsStyled s (code ++ t)

/-- A text without the escape sequences of a diff in colours. -/
def stripCodes : List Char → List Char
  | '\x1b' :: '[' :: '1' :: 'm' :: rest => stripCodes rest
  | '\x1b' :: '[' :: '3' :: '2' :: 'm' :: rest => stripCodes rest
  | '\x1b' :: '[' :: '3' :: '1' :: 'm' :: rest => stripCodes rest
  | '\x1b' :: '[' :: '3' :: '6' :: 'm' :: rest => stripCodes rest
  | '\x1b' :: '[' :: '0' :: 'm' :: rest => stripCodes rest
  | c :: rest => c :: stripCodes rest
  | [] => []

theorem stripCodes_cons {c : Char} (hc : c ≠ '\x1b') (s : List Char) :
    stripCodes (c :: s) = c :: stripCodes s := by
  refine stripCodes.eq_6 c s ?_ ?_ ?_ ?_ ?_ <;> exact fun _ h => absurd h hc

namespace IsStyled
variable {s t : List Char}

theorem refl (s : List Char) : IsStyled s s := by
  induction s with
  | nil => exact .nil
  | cons c s ih => exact .char c ih

theorem append {s' t' : List Char} (h : IsStyled s t) (h' : IsStyled s' t') :
    IsStyled (s ++ s') (t ++ t') := by
  induction h with
  | nil => exact h'
  | char c _ ih => exact .char c ih
  | code hcode _ ih =>
    rw [List.append_assoc]
    exact .code hcode ih

theorem flatMap {α : Type} {l : List α} {f g : α → List Char} (h : ∀ a ∈ l, IsStyled (f a) (g a)) :
    IsStyled (l.flatMap f) (l.flatMap g) := by
  induction l with
  | nil => exact .nil
  | cons a l ih =>
    rw [List.forall_mem_cons] at h
    rw [List.flatMap_cons, List.flatMap_cons]
    exact h.1.append (ih h.2)

/-- A character that no escape sequence holds is as often in the styled text. -/
theorem count_eq {c : Char} (hc : ∀ code ∈ diffCodes, c ∉ code) (h : IsStyled s t) :
    t.count c = s.count c := by
  induction h with
  | nil => rfl
  | char d _ ih => rw [List.count_cons, List.count_cons, ih]
  | code hcode _ ih =>
    rw [List.count_append, List.count_eq_zero_of_not_mem (hc _ hcode), Nat.zero_add, ih]

/-- **Removing the escape sequences gives the text back**, if it has no escape character itself. -/
theorem stripCodes_eq (h : IsStyled s t) (hs : '\x1b' ∉ s) : stripCodes t = s := by
  induction h with
  | nil => rfl
  | char c _ ih =>
    rw [List.mem_cons, not_or] at hs
    rw [stripCodes_cons (Ne.symm hs.1), ih hs.2]
  | code hcode _ ih =>
    simp only [diffCodes, List.mem_cons, List.not_mem_nil, or_false] at hcode
    rcases hcode with rfl | rfl | rfl | rfl | rfl <;> exact ih hs

end IsStyled

/-- Turning a style on again adds its escape sequence. -/
theorem isStyled_resume {on : List Char} (hon : on ∈ diffCodes) (text : List Char) :
    IsStyled text (Style.resume on text) := by
  fun_induction Style.resume on text with
  | case1 rest ih => exact (IsStyled.refl Style.reset).append (.code hon ih)
  | case2 c rest _ ih => exact .char c ih
  | case3 => exact .nil

/-- **A text in a style is the text with escape sequences in it.** -/
theorem isStyled_paint {style : Style} (h : Style.escape style.code ∈ diffCodes)
    (text : List Char) : IsStyled text (style.paint text) := by
  have hmem : Style.reset ∈ diffCodes := by decide
  have hreset : IsStyled [] (Style.reset ++ []) := .code hmem .nil
  have hbody := (isStyled_resume h text).append hreset
  rw [List.append_nil, List.append_nil] at hbody
  rw [Style.paint, List.append_assoc]
  exact .code h hbody

namespace Diff

theorem escape_styleOf {line : List Char} {style : Style} (h : styleOf line = some style) :
    Style.escape style.code ∈ diffCodes := by
  unfold styleOf at h
  split at h <;> cases h <;> decide

/-- **A diff in colours** has lost carriage returns and got escape sequences. -/
theorem isStyled_colored {diff : List Char} (h : ∀ c, diff.getLast? = some c → c = '\n') :
    IsStyled (dropReturns diff) (colored diff) := by
  rw [← flatMap_split h, colored]
  refine IsStyled.flatMap fun line _ => IsStyled.append ?_ (.refl _)
  cases hstyle : styleOf line with
  | none => exact .refl line
  | some style => exact isStyled_paint (escape_styleOf hstyle) line

/-- **Nothing but escape sequences is new** exactly if there were no carriage returns to lose. -/
theorem isStyled_colored_iff {diff : List Char} (h : ∀ c, diff.getLast? = some c → c = '\n') :
    IsStyled diff (colored diff) ↔ ¬ HasReturn diff := by
  have hstyled := isStyled_colored h
  constructor
  · intro hsame hreturn
    -- The escape sequences hold no carriage return, so none would be lost.
    have hcodes : ∀ code ∈ diffCodes, '\r' ∉ code := by decide
    have hlt := count_dropReturns_lt hreturn
    rw [← hstyled.count_eq hcodes, hsame.count_eq hcodes] at hlt
    omega
  · intro hnone
    rwa [dropReturns_of_not hnone] at hstyled

/-- Removing the escape sequences gives back what is left of the diff. -/
theorem stripCodes_colored {diff : List Char} (h : ∀ c, diff.getLast? = some c → c = '\n')
    (hescape : '\x1b' ∉ diff) : stripCodes (colored diff) = dropReturns diff :=
  (isStyled_colored h).stripCodes_eq fun hmem => hescape (mem_of_mem_dropReturns hmem)

end Diff
end DocSchema
