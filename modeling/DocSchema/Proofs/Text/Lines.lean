import DocSchema.Text.Lines
import DocSchema.Text.Utf8

/-!
# Lines of a text and of its bytes

`Lines.cut` divides a text at its line feeds.  `Lines.IsCut` says what such a
division is without an order of steps, and a text has one only
(`Lines.isCut_iff`).

A file is divided into lines before its bytes are decoded.  For the bytes of a
text this makes no difference: in UTF-8 the bytes of the ASCII range stand for
themselves and occur in no longer encoding, so the line feeds of the bytes are
those of the text (`Lines.split_encode`).  Bytes whose lines are all texts are the
bytes of a text (`Lines.exists_encode_of_isCut`).
-/
namespace DocSchema

namespace Lines
variable {α : Type} [DecidableEq α]

/-- **A division into lines.**  A line holds no line feed.  One ends each line but
possibly the last, and a last line that none ends is not empty: after a final
line feed there is no further line. -/
inductive IsCut (feed : α) : List α → List (List α × Bool) → Prop where
  | nil : IsCut feed [] []
  | last {line : List α} : feed ∉ line → line ≠ [] → IsCut feed line [(line, false)]
  | line {line rest : List α} {pieces : List (List α × Bool)} : feed ∉ line →
      IsCut feed rest pieces → IsCut feed (line ++ feed :: rest) ((line, true) :: pieces)

theorem isCut_cut (feed : α) (text : List α) : IsCut feed text (cut feed text) := by
  induction text with
  | nil => exact .nil
  | cons c rest ih =>
    rw [cut]
    by_cases hc : c = feed
    · rw [if_pos hc, hc]
      have hempty : IsCut feed ([] ++ feed :: rest) (([], true) :: cut feed rest) :=
        .line List.not_mem_nil ih
      exact hempty
    · rw [if_neg hc]
      have hmore : ∀ {line : List α}, feed ∉ line → feed ∉ c :: line := by
        intro line hline hmem
        rcases List.mem_cons.mp hmem with rfl | hmem
        · exact hc rfl
        · exact hline hmem
      -- The first character goes to the first of the lines that are there.
      generalize cut feed rest = pieces at ih ⊢
      cases ih with
      | nil => exact .last (hmore List.not_mem_nil) (List.cons_ne_nil _ _)
      | last hline hne => exact .last (hmore hline) (List.cons_ne_nil _ _)
      | line hline hrest => exact .line (hmore hline) hrest

/-- **A text has one division into lines.** -/
theorem isCut_iff {feed : α} {text : List α} {pieces : List (List α × Bool)} :
    IsCut feed text pieces ↔ cut feed text = pieces := by
  constructor
  · intro h
    induction h with
    | nil => rfl
    | last hline hne => exact cut_of_not_mem _ _ hline hne
    | line hline _ ih => rw [cut_append_feed _ _ _ hline, ih]
  · rintro rfl
    exact isCut_cut feed text

end Lines

/-! ## Bytes of characters -/

namespace Bytes

/-- The bytes of characters. -/
def encode (s : List Char) : Bytes := s.flatMap String.utf8EncodeChar

theorem encode_append (s t : List Char) : encode (s ++ t) = encode s ++ encode t :=
  List.flatMap_append ..

theorem encode_singleton (c : Char) : encode [c] = String.utf8EncodeChar c := by simp [encode]

theorem ofText_eq_encode (text : String) : ofText text = encode text.toList := by
  have hbytes : text.toUTF8 = (encode text.toList).toByteArray := String.utf8Encode_toList.symm
  rw [ofText, hbytes, List.toList_data_toByteArray]

@[simp] theorem decode?_encode (s : List Char) : decode? (encode s) = some (String.ofList s) := by
  rw [← String.toList_ofList (l := s), ← ofText_eq_encode, decode?_ofText, String.toList_ofList]

/-- Bytes that are read as a text are the bytes of that text. -/
theorem decode?_eq_some_iff {bytes : Bytes} {text : String} :
    decode? bytes = some text ↔ bytes = ofText text := by
  constructor
  · intro h
    unfold decode? String.fromUTF8? at h
    split at h
    · obtain rfl := Option.some.inj h
      rfl
    · cases h
  · rintro rfl
    exact decode?_ofText text

/-- A byte of the ASCII range is the whole encoding of the character of its
number. -/
theorem eq_of_mem_utf8EncodeChar {c : Char} {b : UInt8} (hb : b ∈ String.utf8EncodeChar c)
    (hlt : b.toNat < 128) : String.utf8EncodeChar c = [b] ∧ c.toNat = b.toNat := by
  have hnot : ∀ n, 128 ≤ n % 256 → b ≠ UInt8.ofNat n := by
    rintro n hn rfl
    rw [UInt8.toNat_ofNat'] at hlt
    omega
  have hcases : c.val.toNat ≤ 127 := by
    refine Nat.le_of_not_lt fun hlarge => ?_
    unfold String.utf8EncodeChar at hb
    simp only [Nat.not_le.mpr hlarge, if_false] at hb
    split at hb
    · simp only [List.mem_cons, List.not_mem_nil, or_false] at hb
      rcases hb with hb | hb <;> exact hnot _ (by omega) hb
    · split at hb
      · simp only [List.mem_cons, List.not_mem_nil, or_false] at hb
        rcases hb with hb | hb | hb <;> exact hnot _ (by omega) hb
      · simp only [List.mem_cons, List.not_mem_nil, or_false] at hb
        rcases hb with hb | hb | hb | hb <;> exact hnot _ (by omega) hb
  unfold String.utf8EncodeChar at hb ⊢
  simp only [hcases, if_true, List.mem_singleton] at hb ⊢
  subst hb
  refine ⟨rfl, ?_⟩
  rw [UInt8.toNat_ofNat']
  exact (Nat.mod_eq_of_lt (Nat.lt_of_le_of_lt hcases (by decide))).symm

/-- A character of the ASCII range is among characters exactly if its byte is
among theirs. -/
theorem mem_encode_iff {c : Char} (b : UInt8) {s : List Char} (hc : c.toNat = b.toNat)
    (hb : String.utf8EncodeChar c = [b]) (hlt : b.toNat < 128) : b ∈ encode s ↔ c ∈ s := by
  rw [encode, List.mem_flatMap]
  constructor
  · rintro ⟨d, hd, hmem⟩
    have hdc : d = c := Char.toNat_inj.mp ((eq_of_mem_utf8EncodeChar hmem hlt).2.trans hc.symm)
    exact hdc ▸ hd
  · intro h
    exact ⟨c, h, by rw [hb]; exact List.mem_singleton_self b⟩

theorem encode_eq_nil_iff {s : List Char} : encode s = [] ↔ s = [] := by
  rw [encode, List.flatMap_eq_nil_iff]
  constructor
  · intro h
    cases s with
    | nil => rfl
    | cons c s => exact absurd (h c List.mem_cons_self) String.utf8EncodeChar_ne_nil
  · rintro rfl
    exact fun _ h => absurd h List.not_mem_nil

end Bytes

namespace Lines
open Bytes

/-- The bytes of a text are divided where the text is. -/
theorem isCut_encode {text : List Char} {pieces : List (List Char × Bool)}
    (h : IsCut '\n' text pieces) :
    IsCut 10 (encode text) (pieces.map fun p => (encode p.1, p.2)) := by
  have hfeed : ∀ {line : List Char}, '\n' ∉ line → (10 : UInt8) ∉ encode line := by
    intro line hline
    rwa [mem_encode_iff (c := '\n') 10 rfl rfl (by decide)]
  induction h with
  | nil => exact .nil
  | last hline hne => exact .last (hfeed hline) (mt encode_eq_nil_iff.mp hne)
  | line hline _ ih =>
    rw [encode_append]
    exact .line (hfeed hline) ih

theorem dropReturn_encode (p : List Char × Bool) :
    dropReturn 13 (encode p.1, p.2) = encode (dropReturn '\r' p) := by
  obtain ⟨line, ended⟩ := p
  unfold dropReturn
  simp only
  cases hlast : line.getLast? with
  | none =>
    obtain rfl := List.getLast?_eq_none_iff.mp hlast
    simp [encode]
  | some c =>
    obtain ⟨front, rfl⟩ := List.getLast?_eq_some_iff.mp hlast
    have hbytes : encode (front ++ [c]) = encode front ++ String.utf8EncodeChar c := by
      rw [encode_append, encode_singleton]
    by_cases hc : c = '\r'
    · subst hc
      have hreturn : String.utf8EncodeChar '\r' = [13] := rfl
      rw [hbytes, hreturn]
      cases ended <;> simp [hbytes, hreturn]
    · -- The last byte of a longer encoding is outside the ASCII range.
      have hnot : (encode (front ++ [c])).getLast? ≠ some 13 := by
        intro h
        have hd := List.getLast?_eq_some_getLast (String.utf8EncodeChar_ne_nil (c := c))
        rw [hbytes, List.getLast?_append, hd] at h
        have hmem := List.mem_of_getLast? (hd.trans h)
        rw [← encode_singleton, mem_encode_iff (c := '\r') 13 rfl rfl (by decide)] at hmem
        exact hc (List.mem_singleton.mp hmem).symm
      rw [if_neg fun h => hnot h.2, if_neg (by simpa using fun _ => hc)]

/-- **Dividing the bytes of a text divides the text.** -/
theorem split_encode (text : List Char) :
    split 10 13 (encode text) = (split '\n' '\r' text).map encode := by
  rw [split, split, isCut_iff.mp (isCut_encode (isCut_cut '\n' text)), List.map_map, List.map_map]
  exact List.map_congr_left fun p _ => dropReturn_encode p

/-- A line is what is left of it without its carriage return, or this with one. -/
theorem eq_or_eq_of_dropReturn {α : Type} [DecidableEq α] (carriage : α) (p : List α × Bool) :
    p.1 = dropReturn carriage p ∨ p.1 = dropReturn carriage p ++ [carriage] := by
  unfold dropReturn
  split
  · rename_i h
    obtain ⟨front, hfront⟩ := List.getLast?_eq_some_iff.mp h.2
    right
    rw [hfront, List.dropLast_concat]
  · exact .inl rfl

/-- **Bytes are those of a text if the bytes of each line are.** -/
theorem exists_encode_of_isCut {bytes : Bytes} {pieces : List (Bytes × Bool)}
    (h : IsCut 10 bytes pieces) (hlines : ∀ p ∈ pieces, ∃ line, dropReturn 13 p = encode line) :
    ∃ text, bytes = encode text := by
  have hpiece : ∀ p ∈ pieces, ∃ line, p.1 = encode line := by
    intro p hp
    obtain ⟨line, hline⟩ := hlines p hp
    rcases eq_or_eq_of_dropReturn 13 p with h | h
    · exact ⟨line, h.trans hline⟩
    · exact ⟨line ++ ['\r'], by rw [h, hline, encode_append]; rfl⟩
  clear hlines
  induction h with
  | nil => exact ⟨[], rfl⟩
  | last _ _ => exact hpiece _ List.mem_cons_self
  | line _ _ ih =>
    rw [List.forall_mem_cons] at hpiece
    obtain ⟨⟨line, rfl⟩, hrest⟩ := hpiece
    obtain ⟨rest, rfl⟩ := ih hrest
    exact ⟨line ++ '\n' :: rest, (encode_append line ('\n' :: rest)).symm⟩

end Lines
end DocSchema
