import DocSchema.Proofs.Json.Printed

/-!
# Values on one line

A value without floating-point and negative numbers (`IsPlain`) is read back from its
compact text, except for one thing: a document has the members of its objects in
order of their names (`sorted`).  The compact text is a single line, since strings
have their line feeds escaped.

How deep a text may nest is bounded, so the depth is part of what it means to be plain.
-/
namespace DocSchema.Json
open Reader

mutual

/-- A value as a document has it: the members of each object in order of their names. -/
def sorted : Json → Json
  | array vs => array (sortedElements vs)
  | object ms => ofMembers (sortedMembers ms)
  | v => v

/-- The elements of an array as a document has them. -/
def sortedElements : List Json → List Json
  | [] => []
  | v :: vs => v.sorted :: sortedElements vs

/-- The members of an object, each with its value as a document has it. -/
def sortedMembers : List (String × Json) → List (String × Json)
  | [] => []
  | (key, v) :: ms => (key, v.sorted) :: sortedMembers ms

end

/-- **A plain value** nests no deeper than a number of levels, and its numbers are natural
numbers below `2 ^ 64`. -/
inductive IsPlain : Nat → Json → Prop where
  | null (levels : Nat) : IsPlain levels .null
  | bool (levels : Nat) (b : Bool) : IsPlain levels (.bool b)
  | nat (levels : Nat) {n : Nat} : n < UInt64.size → IsPlain levels (nat n)
  | string (levels : Nat) (s : String) : IsPlain levels (.string s)
  | array {levels : Nat} {vs : List Json} :
      (∀ v ∈ vs, IsPlain levels v) → IsPlain (levels + 1) (.array vs)
  | object {levels : Nat} {ms : List (String × Json)} : (∀ m ∈ ms, IsPlain levels m.2) →
      IsPlain (levels + 1) (.object ms)

theorem IsPlain.noMembers (levels : Nat) : IsPlain (levels + 1) (.object []) :=
  .object fun _ hm => absurd hm List.not_mem_nil

/-- One more member of an object. -/
theorem IsPlain.member {levels : Nat} {key : String} {v : Json} {ms : List (String × Json)}
    (hv : IsPlain levels v) (hms : IsPlain (levels + 1) (.object ms)) :
    IsPlain (levels + 1) (.object ((key, v) :: ms)) := by
  cases hms with
  | object hms => exact .object (List.forall_mem_cons.mpr ⟨hv, hms⟩)

theorem sortedElements_eq (vs : List Json) : sortedElements vs = vs.map sorted := by
  induction vs with
  | nil => rfl
  | cons v vs ih => rw [sortedElements, ih, List.map_cons]

theorem sortedMembers_eq (ms : List (String × Json)) :
    sortedMembers ms = ms.map fun m => (m.1, m.2.sorted) := by
  induction ms with
  | nil => rfl
  | cons m ms ih => rw [sortedMembers, ih, List.map_cons]

/-! ## Reading back -/

/-- A word whose first letter decides that it is read. -/
theorem readsBack_word {levels : Nat} {c : Char} {w : List Char} {v : Json}
    (hc : Reader.isBlank c = false) (hend : c ≠ ']')
    (hvalue : ∀ s, value levels (c :: s) = word v w s) :
    ReadsBack (value levels) (c :: w) v :=
  ⟨⟨c, w, rfl, hc, hend⟩, fun rest _ => by rw [List.cons_append, hvalue, word_append]⟩

theorem readsBack_value_nat (levels : Nat) {n : Nat} (hn : n < UInt64.size) :
    ReadsBack (value levels) (nat n).compact (nat n) := by
  obtain ⟨c, cs, htext, hc⟩ := toDigits_eq_cons n
  have hne : ∀ d : Char, d.isDigit = false → c ≠ d := by
    rintro d hd rfl
    exact absurd hc (by simp [hd])
  rw [compact_nat]
  refine ⟨⟨c, cs, htext, isBlank_of_isDigit hc, hne _ rfl⟩, fun rest hrest => ?_⟩
  have hnumber := number_toDigits hn hrest
  rw [htext, List.cons_append] at hnumber ⊢
  rw [value, skipBlanks_cons (isBlank_of_isDigit hc)]
  simp [hne 'n' rfl, hne 't' rfl, hne 'f' rfl, hne '"' rfl, hne '[' rfl, hne '{' rfl, hc, hnumber,
    Except.map, nat]

/-- Members whose values are read back, under the names that they have. -/
theorem forall₂_readsMember {read : List Char → Result Json} {ms : List (String × Json)}
    (h : ∀ m ∈ ms, ReadsBack read m.2.compact m.2.sorted) :
    List.Forall₂ (ReadsMember fun key s => (read s).map fun (v, rest) => ((key, v), rest))
      (ms.map fun m => (m.1, m.2.compact)) (ms.map fun m => (m.1, m.2.sorted)) := by
  refine List.forall₂_map_left_iff.mpr (List.forall₂_map_right_iff.mpr (List.forall₂_same.mpr ?_))
  exact fun m hm => (h m hm).map fun v => (m.1, v)

/-- **A plain value is read back** as a document has it. -/
theorem IsPlain.readsBack {levels : Nat} {v : Json} (h : IsPlain levels v) :
    ReadsBack (value levels) v.compact v.sorted := by
  induction h with
  | null levels => exact readsBack_word rfl (by decide) fun s => by rw [value]; rfl
  | bool levels b =>
    cases b with
    | true => exact readsBack_word rfl (by decide) fun s => by rw [value]; rfl
    | false => exact readsBack_word rfl (by decide) fun s => by rw [value]; rfl
  | nat levels hn => exact readsBack_value_nat levels hn
  | string levels s =>
    rw [compact_string]
    refine ⟨⟨'"', _, rfl, rfl, by decide⟩, fun rest _ => ?_⟩
    rw [quote_append, value, skipBlanks_cons rfl]
    simp only [string_quote]
    rfl
  | @array levels vs _ ih =>
    have hvs : List.Forall₂ (ReadsBack (value levels)) (vs.map compact) (vs.map sorted) :=
      List.forall₂_map_left_iff.mpr (List.forall₂_map_right_iff.mpr (List.forall₂_same.mpr ih))
    rw [compact_array, sorted, sortedElements_eq]
    refine ⟨⟨'[', _, rfl, rfl, by decide⟩, fun rest _ => ?_⟩
    rw [List.cons_append, List.append_assoc, value, skipBlanks_cons rfl]
    simp only [List.singleton_append, list_intercalate hvs]
    rfl
  | @object levels ms _ ih =>
    rw [compact_object, sorted, sortedMembers_eq]
    refine ⟨⟨'{', _, rfl, rfl, by decide⟩, fun rest _ => ?_⟩
    rw [List.cons_append, List.append_assoc, value, skipBlanks_cons rfl]
    simp only [List.singleton_append, record_intercalate (forall₂_readsMember ih)]
    rfl

end DocSchema.Json
