import DocSchema.Json.Printer
import DocSchema.Json.Reader
import Mathlib.Data.List.Forall2

/-!
# Printed text is read back

A reader takes a value from the front of a text.  It reads back a printed text if
it takes exactly this text and leaves what follows, whatever that is, as long as a
value may end there (`ReadsBack`).  A printed string ends with its quote, but a
number has no end of its own, so what follows matters.

Strings and natural numbers are read back, and so are lists and records whose parts
are (`list_intercalate`, `record_intercalate`).  The readers of parts are left open:
the same two lemmas serve values of any kind and values of a known shape.
-/
namespace DocSchema.Json
open Reader

/-- A value may end here: the text ends, or the list or record around it goes on. -/
def MayEnd (rest : List Char) : Prop := ∀ c, rest.head? = some c → c ∈ [',', ']', '}']

/-- **A reader reads back a text as a value.**  The text begins with a character
that begins a value, neither a blank nor the end of a list. -/
structure ReadsBack {α : Type} (read : List Char → Result α) (text : List Char) (v : α) : Prop where
  start : ∃ c cs, text = c :: cs ∧ Reader.isBlank c = false ∧ c ≠ ']'
  reads : ∀ rest, MayEnd rest → read (text ++ rest) = .ok (v, rest)

theorem mayEnd_nil : MayEnd [] := by simp [MayEnd]

theorem mayEnd_cons {c : Char} (h : c ∈ [',', ']', '}']) (rest : List Char) :
    MayEnd (c :: rest) := by
  rintro d ⟨⟩
  exact h

theorem skipBlanks_cons {c : Char} (h : Reader.isBlank c = false) (s : List Char) :
    skipBlanks (c :: s) = c :: s := by
  rw [skipBlanks, List.dropWhile_cons_of_neg (by simp [h])]

theorem word_append {α : Type} (v : α) (w rest : List Char) :
    word v w (w ++ rest) = .ok (v, rest) := by
  induction w with
  | nil => rfl
  | cons c w ih => rw [List.cons_append, word, if_pos rfl, ih]

/-- What follows a value when the reading goes on with another one. -/
theorem ReadsBack.map {α β : Type} {read : List Char → Result α} {text : List Char} {v : α}
    (h : ReadsBack read text v) (f : α → β) :
    ReadsBack (fun s => (read s).map fun (v, rest) => (f v, rest)) text (f v) :=
  ⟨h.start, fun rest hrest => by rw [h.reads rest hrest]; rfl⟩

/-! ## Strings -/

theorem hexValue?_hexDigit (n : Nat) : hexValue? (hexDigit n) = some (n % 16) := by
  have hdigits : ∀ k < 16, hexValue? (Nat.digitChar k) = some k := by decide
  exact hdigits _ (Nat.mod_lt n (by decide))

/-- A control character is read from its digits. -/
theorem unicodeEscape_hexDigit {c : Char} (h : c.toNat < 32) (rest : List Char) :
    unicodeEscape ('0' :: '0' :: hexDigit (c.toNat / 16) :: hexDigit c.toNat :: rest) =
      .ok (c, rest) := by
  have hbytes :
      ¬ byteCount ('0' :: '0' :: hexDigit (c.toNat / 16) :: hexDigit c.toNat :: rest) < 4 := by
    have hsize := fun d : Char => d.utf8Size_pos
    have hfirst := hsize (hexDigit (c.toNat / 16))
    have hsecond := hsize (hexDigit c.toNat)
    have hzero := hsize '0'
    simp only [byteCount, List.foldr_cons]
    omega
  have hzero : hexValue? '0' = some 0 := by decide
  have hvalue : ((0 * 16 + 0) * 16 + c.toNat / 16 % 16) * 16 + c.toNat % 16 = c.toNat := by omega
  have hhigh : ¬ (0xDC00 ≤ c.toNat ∧ c.toNat ≤ 0xDFFF) := by omega
  have hlow : ¬ (0xD800 ≤ c.toNat ∧ c.toNat ≤ 0xDBFF) := by omega
  simp only [unicodeEscape, hexEscape, if_neg hbytes, hzero, hexValue?_hexDigit, hvalue,
    if_neg hhigh, if_neg hlow, Char.ofNat_toNat]

/-- **A character is read back from what stands for it.** -/
theorem stringBody_escape (c : Char) (fuel : Nat) (rest : List Char) :
    stringBody escaped (fuel + 1) (escape c ++ rest) =
      (stringBody escaped fuel rest).map fun (cs, rest) => (c :: cs, rest) := by
  have hletter : ∀ d e : Char, d ≠ 'u' → letterEscape? d = some e →
      stringBody escaped (fuel + 1) ('\\' :: d :: rest) =
        (stringBody escaped fuel rest).map fun (cs, rest) => (e :: cs, rest) := by
    intro d e hd he
    have hescaped : escaped (d :: rest) = .ok (e, rest) := by
      rw [escaped, he]
      simpa using hd
    simp only [stringBody, hescaped]
  -- The cases are those of `escape`: a letter, a code of four digits, or the character itself.
  unfold escape
  split
  · subst c; exact hletter '"' '"' (by decide) (by decide)
  split
  · subst c; exact hletter '\\' '\\' (by decide) (by decide)
  split
  · subst c; exact hletter 'n' '\n' (by decide) (by decide)
  split
  · subst c; exact hletter 'r' '\r' (by decide) (by decide)
  split
  · subst c; exact hletter 't' '\t' (by decide) (by decide)
  split
  · subst c; exact hletter 'b' '\x08' (by decide) (by decide)
  split
  · subst c; exact hletter 'f' '\x0c' (by decide) (by decide)
  split
  · rename_i hcontrol
    have hescaped := unicodeEscape_hexDigit hcontrol rest
    simp only [List.cons_append, List.nil_append, stringBody, escaped, hescaped]
  · rename_i hquote hbackslash _ _ _ _ _ hcontrol
    rw [List.singleton_append, stringBody, if_neg hcontrol]
    · exact fun h => hquote h
    · exact fun h => hbackslash h

theorem stringBody_flatMap_escape {cs : List Char} {fuel : Nat} (h : cs.length < fuel)
    (rest : List Char) :
    stringBody escaped fuel (cs.flatMap escape ++ '"' :: rest) = .ok (cs, rest) := by
  induction cs generalizing fuel with
  | nil =>
    obtain ⟨fuel, rfl⟩ := Nat.exists_eq_succ_of_ne_zero (Nat.ne_of_gt h)
    rfl
  | cons c cs ih =>
    rw [List.length_cons] at h
    obtain ⟨fuel, rfl⟩ := Nat.exists_eq_succ_of_ne_zero (Nat.ne_of_gt (Nat.zero_lt_of_lt h))
    rw [List.flatMap_cons, List.append_assoc, stringBody_escape, ih (Nat.lt_of_succ_lt_succ h)]
    rfl

theorem one_le_length_escape (c : Char) : 1 ≤ (escape c).length := by
  unfold escape
  repeat' split
  all_goals simp

theorem length_le_length_flatMap {α β : Type} {f : α → List β} (hf : ∀ a, 1 ≤ (f a).length)
    (as : List α) : as.length ≤ (as.flatMap f).length := by
  induction as with
  | nil => exact Nat.le_refl _
  | cons a as ih =>
    have hone := hf a
    rw [List.flatMap_cons, List.length_append, List.length_cons]
    omega

/-- **A string is read back from between its quotes.** -/
theorem string_quote (s : String) (rest : List Char) :
    Reader.string (s.toList.flatMap escape ++ '"' :: rest) = .ok (s, rest) := by
  -- Each character is printed as one or more, so the text is long enough to be the fuel.
  have hfuel : s.toList.length < (s.toList.flatMap escape ++ '"' :: rest).length + 1 := by
    have hlength := length_le_length_flatMap one_le_length_escape s.toList
    rw [List.length_append]
    omega
  rw [Reader.string, stringBody_flatMap_escape hfuel]
  simp [Except.map]

theorem quote_append (s : String) (rest : List Char) :
    quote s ++ rest = '"' :: (s.toList.flatMap escape ++ '"' :: rest) := by
  simp [quote]

/-! ## Natural numbers -/

theorem le_ofDigitChars (ds : List Char) (sum : Nat) : sum ≤ Nat.ofDigitChars 10 ds sum := by
  induction ds generalizing sum with
  | nil => exact Nat.le_refl sum
  | cons d ds ih =>
    rw [Nat.ofDigitChars_cons]
    have hrest := ih (10 * sum + (d.toNat - '0'.toNat))
    omega

/-- Digits of a number below `2 ^ 64` all fit. -/
theorem accumulate_of_lt {ds : List Char} {sum : Nat}
    (h : Nat.ofDigitChars 10 ds sum < UInt64.size) :
    accumulate sum ds = (Nat.ofDigitChars 10 ds sum, []) := by
  induction ds generalizing sum with
  | nil => rfl
  | cons d ds ih =>
    rw [Nat.ofDigitChars_cons] at h ⊢
    have hle := le_ofDigitChars ds (10 * sum + (d.toNat - '0'.toNat))
    have hfits : 10 * sum + digitValue d < UInt64.size := Nat.lt_of_le_of_lt hle h
    rw [accumulate, if_pos hfits]
    exact ih h

/-- No number but zero is printed with a zero in front. -/
theorem eq_zero_of_head?_toDigits {n : Nat} (h : (Nat.toDigits 10 n).head? = some '0') : n = 0 := by
  induction n using Nat.strongRecOn with
  | _ n ih =>
    by_cases hsmall : n < 10
    · have hdigits : ∀ k < 10, Nat.digitChar k = '0' → k = 0 := by decide
      rw [Nat.toDigits_of_lt_base hsmall] at h
      exact hdigits n hsmall (Option.some.inj h)
    · have hlarge : 10 ≤ n := Nat.le_of_not_lt hsmall
      rw [Nat.toDigits_of_base_le (by decide) hlarge,
        List.head?_append_of_ne_nil _ Nat.toDigits_ne_nil] at h
      have hzero := ih (n / 10) (by omega) h
      omega

theorem toDigits_eq_cons (n : Nat) : ∃ c cs, Nat.toDigits 10 n = c :: cs ∧ c.isDigit = true := by
  obtain ⟨c, cs, htext⟩ := List.exists_cons_of_ne_nil (Nat.toDigits_ne_nil (n := n) (b := 10))
  have hmem : c ∈ Nat.toDigits 10 n := by
    rw [htext]
    exact List.mem_cons_self
  exact ⟨c, cs, htext, Nat.isDigit_of_mem_toDigits (by decide) (by decide) hmem⟩

theorem isBlank_of_isDigit {c : Char} (h : c.isDigit = true) : Reader.isBlank c = false := by
  rw [Bool.eq_false_iff]
  intro hblank
  simp only [Reader.isBlank, Bool.or_eq_true, decide_eq_true_eq] at hblank
  rcases hblank with ((rfl | rfl) | rfl) | rfl <;> exact absurd h (by decide)

/-- **A natural number below `2 ^ 64` is read back from its digits.** -/
theorem number_toDigits {n : Nat} (hn : n < UInt64.size) {rest : List Char} (hrest : MayEnd rest) :
    Reader.number (Nat.toDigits 10 n ++ rest) = .ok (.int n, rest) := by
  have hdigits : ∀ c ∈ Nat.toDigits 10 n, c.isDigit = true := fun c hc =>
    Nat.isDigit_of_mem_toDigits (by decide) (by decide) hc
  have hfollow : ∀ c, rest.head? = some c → c.isDigit = false ∧ c ≠ '.' ∧ c ≠ 'e' ∧ c ≠ 'E' := by
    intro c hc
    have hmem := hrest c hc
    simp only [List.mem_cons, List.not_mem_nil, or_false] at hmem
    rcases hmem with rfl | rfl | rfl <;> decide
  have htake : (Nat.toDigits 10 n ++ rest).takeWhile Char.isDigit = Nat.toDigits 10 n := by
    rw [List.takeWhile_append_of_pos hdigits]
    cases rest with
    | nil => simp
    | cons c rest => simp [(hfollow c rfl).1]
  have hsum : accumulate 0 (Nat.toDigits 10 n) = (n, []) := by
    have hvalue : Nat.ofDigitChars 10 (Nat.toDigits 10 n) 0 = n := Nat.ofDigitChars_ten_toDigits
    rw [accumulate_of_lt (by rwa [hvalue]), hvalue]
  obtain ⟨c, cs, htext, hc⟩ := toDigits_eq_cons n
  -- A zero in front is the whole number, so the digits are all that there are.
  have hall : (if c = '0' then [c] else (c :: (cs ++ rest)).takeWhile Char.isDigit) = c :: cs := by
    rw [← List.cons_append, ← htext, htake, htext]
    split
    · rename_i hzero
      obtain rfl : n = 0 := eq_zero_of_head?_toDigits (by rw [htext, hzero]; rfl)
      rw [Nat.toDigits_zero] at htext
      obtain ⟨-, rfl⟩ := List.cons.inj htext
      rfl
    · rfl
  have hdrop : (c :: (cs ++ rest)).drop (c :: cs).length = rest := by
    rw [← List.cons_append, List.drop_left]
  have hminus : c ≠ '-' := by
    rintro rfl
    exact absurd hc (by decide)
  rw [htext] at hsum ⊢
  rw [List.cons_append, Reader.number, unsigned]
  · simp only [hall, hdrop, hsum, hc]
    cases rest with
    | nil => simp [integer]
    | cons d rest =>
      obtain ⟨hdigit, hdot, he, hE⟩ := hfollow d rfl
      simp [integer, hdigit, hdot, he, hE]
  · simpa using hminus

/-! ## Lists and records -/

variable {α : Type}

theorem intercalate_singleton_cons (c : Char) (t : List Char) (ts : List (List Char)) :
    [c].intercalate (t :: ts) = t ++ ts.flatMap (c :: ·) := by
  induction ts generalizing t with
  | nil => rw [List.intercalate_singleton, List.flatMap_nil, List.append_nil]
  | cons u ts ih =>
    rw [List.intercalate_cons_cons, ih, List.flatMap_cons, List.append_assoc]
    rfl

theorem mayEnd_flatMap_cons (ts : List (List Char)) {c : Char} (h : c ∈ [',', ']', '}'])
    (rest : List Char) : MayEnd (ts.flatMap (',' :: ·) ++ c :: rest) := by
  cases ts with
  | nil => exact mayEnd_cons h rest
  | cons t ts => exact mayEnd_cons (by decide) _

/-- The next element of a list is read, and after it the others. -/
theorem items_next {item : List Char → Result α} {t s rest : List Char} {x : α} {xs : List α}
    (h : ReadsBack item t x) (hs : MayEnd s) {fuel : Nat}
    (hothers : items item fuel false s = .ok (xs, rest)) :
    items item (fuel + 1) true (t ++ s) = .ok (x :: xs, rest) ∧
      items item (fuel + 1) false (',' :: (t ++ s)) = .ok (x :: xs, rest) := by
  have hreads := h.reads s hs
  obtain ⟨c, cs, rfl, hblank, hend⟩ := h.start
  have hskip : skipBlanks (c :: (cs ++ s)) = c :: (cs ++ s) := skipBlanks_cons hblank _
  rw [List.cons_append] at hreads ⊢
  have hcomma : skipBlanks (',' :: c :: (cs ++ s)) = ',' :: c :: (cs ++ s) := skipBlanks_cons rfl _
  constructor
  · rw [items, hskip]
    simp [hreads, hothers, bind, Except.bind]
  · rw [items, hcomma]
    simp [hskip, hend, hreads, hothers, bind, Except.bind]

/-- The elements after the first one, each behind its comma. -/
theorem items_flatMap {item : List Char → Result α} {ts : List (List Char)} {xs : List α}
    (h : List.Forall₂ (ReadsBack item) ts xs) {fuel : Nat} (hfuel : ts.length < fuel)
    (rest : List Char) :
    items item fuel false (ts.flatMap (',' :: ·) ++ ']' :: rest) = .ok (xs, rest) := by
  induction h generalizing fuel with
  | nil =>
    obtain ⟨fuel, rfl⟩ := Nat.exists_eq_succ_of_ne_zero (Nat.ne_of_gt hfuel)
    rfl
  | @cons t x ts xs hread hreads ih =>
    rw [List.length_cons] at hfuel
    obtain ⟨fuel, rfl⟩ := Nat.exists_eq_succ_of_ne_zero (Nat.ne_of_gt (Nat.zero_lt_of_lt hfuel))
    have hothers := ih (Nat.lt_of_succ_lt_succ hfuel)
    rw [List.flatMap_cons, List.append_assoc, List.cons_append]
    exact (items_next hread (mayEnd_flatMap_cons ts (by decide) rest) hothers).2

/-- **A list is read back when its elements are.** -/
theorem list_intercalate {item : List Char → Result α} {ts : List (List Char)} {xs : List α}
    (h : List.Forall₂ (ReadsBack item) ts xs) (rest : List Char) :
    list item ([','].intercalate ts ++ ']' :: rest) = .ok (xs, rest) := by
  cases h with
  | nil => rfl
  | @cons t x ts xs hread hreads =>
    -- The fuel is the length of the text, in which each further element has a comma.
    have hlength : ts.length ≤ (ts.flatMap (',' :: ·)).length :=
      length_le_length_flatMap (f := (',' :: ·)) (fun _ => Nat.succ_pos _) ts
    have hothers := items_flatMap hreads
      (show ts.length < (t ++ (ts.flatMap (',' :: ·) ++ ']' :: rest)).length by
        simp only [List.length_append, List.length_cons]
        omega) rest
    rw [intercalate_singleton_cons, List.append_assoc, list]
    exact (items_next hread (mayEnd_flatMap_cons ts (by decide) rest) hothers).1

/-- A member of a record as it is printed: its name, and the text of its value. -/
def memberText (m : String × List Char) : List Char := quote m.1 ++ ':' :: m.2

/-- A reader of members reads back a value that stands under a name. -/
def ReadsMember (entry : String → List Char → Result α) (m : String × List Char) (x : α) : Prop :=
  ReadsBack (entry m.1) m.2 x

theorem entries_next {entry : String → List Char → Result α} {m : String × List Char}
    {s rest : List Char} {x : α} {xs : List α} (h : ReadsMember entry m x) (hs : MayEnd s)
    {fuel : Nat} (hothers : entries entry fuel false s = .ok (xs, rest)) :
    entries entry (fuel + 1) true (memberText m ++ s) = .ok (x :: xs, rest) ∧
      entries entry (fuel + 1) false (',' :: (memberText m ++ s)) = .ok (x :: xs, rest) := by
  obtain ⟨key, t⟩ := m
  have hreads : entry key (t ++ s) = .ok (x, s) := h.reads s hs
  have hkey := string_quote key (':' :: (t ++ s))
  have hcolon : skipBlanks (':' :: (t ++ s)) = ':' :: (t ++ s) := skipBlanks_cons rfl _
  have htext : memberText (key, t) ++ s =
      '"' :: (key.toList.flatMap escape ++ '"' :: ':' :: (t ++ s)) := by
    rw [memberText, List.append_assoc, quote_append]
    rfl
  rw [htext]
  generalize key.toList.flatMap escape ++ '"' :: ':' :: (t ++ s) = quoted at hkey
  have hquote : skipBlanks ('"' :: quoted) = '"' :: quoted := skipBlanks_cons rfl _
  have hcomma : skipBlanks (',' :: '"' :: quoted) = ',' :: '"' :: quoted := skipBlanks_cons rfl _
  constructor
  · rw [entries, hquote]
    simp [hkey, hcolon, hreads, hothers, bind, Except.bind]
  · rw [entries, hcomma]
    simp [hquote, hkey, hcolon, hreads, hothers, bind, Except.bind]

/-- The members after the first one, each behind its comma. -/
theorem entries_flatMap {entry : String → List Char → Result α} {ms : List (String × List Char)}
    {xs : List α} (h : List.Forall₂ (ReadsMember entry) ms xs) {fuel : Nat}
    (hfuel : ms.length < fuel) (rest : List Char) :
    entries entry fuel false ((ms.map memberText).flatMap (',' :: ·) ++ '}' :: rest) =
      .ok (xs, rest) := by
  induction h generalizing fuel with
  | nil =>
    obtain ⟨fuel, rfl⟩ := Nat.exists_eq_succ_of_ne_zero (Nat.ne_of_gt hfuel)
    rfl
  | @cons m x ms xs hread hreads ih =>
    rw [List.length_cons] at hfuel
    obtain ⟨fuel, rfl⟩ := Nat.exists_eq_succ_of_ne_zero (Nat.ne_of_gt (Nat.zero_lt_of_lt hfuel))
    have hothers := ih (Nat.lt_of_succ_lt_succ hfuel)
    rw [List.map_cons, List.flatMap_cons, List.append_assoc, List.cons_append]
    exact (entries_next hread (mayEnd_flatMap_cons _ (by decide) rest) hothers).2

/-- **A record is read back when its members are.** -/
theorem record_intercalate {entry : String → List Char → Result α} {ms : List (String × List Char)}
    {xs : List α} (h : List.Forall₂ (ReadsMember entry) ms xs) (rest : List Char) :
    record entry ([','].intercalate (ms.map memberText) ++ '}' :: rest) = .ok (xs, rest) := by
  cases h with
  | nil => rfl
  | @cons m x ms xs hread hreads =>
    have hlength := length_le_length_flatMap (f := (',' :: ·)) (fun _ => Nat.succ_pos _)
      (ms.map memberText)
    rw [List.length_map] at hlength
    have hothers := entries_flatMap hreads
      (show ms.length <
        (memberText m ++ ((ms.map memberText).flatMap (',' :: ·) ++ '}' :: rest)).length by
        simp only [List.length_append, List.length_cons]
        omega) rest
    rw [List.map_cons, intercalate_singleton_cons, List.append_assoc, record]
    exact (entries_next hread (mayEnd_flatMap_cons _ (by decide) rest) hothers).1

/-! ## Values with children -/

theorem compactElements_eq (vs : List Json) :
    compactElements vs = [','].intercalate (vs.map compact) := by
  match vs with
  | [] => rfl
  | [v] => simp [compactElements]
  | v :: w :: vs =>
    rw [compactElements, compactElements_eq (w :: vs)]
    simp [intercalate_singleton_cons]

theorem compactMembers_eq (ms : List (String × Json)) :
    compactMembers ms = [','].intercalate (ms.map fun m => memberText (m.1, m.2.compact)) := by
  match ms with
  | [] => rfl
  | [(key, v)] => simp [compactMembers, memberText]
  | (key, v) :: m :: ms =>
    rw [compactMembers, compactMembers_eq (m :: ms)]
    simp [intercalate_singleton_cons, memberText]

theorem compact_string (s : String) : (string s).compact = quote s := by
  simp [compact, printScalar]

theorem compact_nat (n : Nat) : (nat n).compact = Nat.toDigits 10 n := by
  have hnonneg : ¬ (n : Int) < 0 := Int.not_lt.mpr (Int.natCast_nonneg n)
  simp [compact, nat, printScalar, printNumber, printInt, hnonneg]

theorem compact_array (vs : List Json) :
    (array vs).compact = '[' :: ([','].intercalate (vs.map compact) ++ [']']) := by
  rw [compact, compactElements_eq]

theorem compact_object (ms : List (String × Json)) :
    (object ms).compact =
      '{' :: ([','].intercalate ((ms.map fun m => (m.1, m.2.compact)).map memberText) ++
        ['}']) := by
  rw [compact, compactMembers_eq, List.map_map]
  rfl

end DocSchema.Json
