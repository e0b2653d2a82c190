import DocSchema.Failure.Codec
import DocSchema.Proofs.Json.Shape

/-!
# Failures are read back

A failure is written in one form and read in many: members may stand in any order, unknown
ones are passed over, what is absent may be left out, and a record may be an array.  What is
written is read back (`Failure.readsBack`, `FailureList.readsBack`) as long as its
numbers are machine numbers (`Sized`), and only such numbers are read (`yields_failure`,
`yields_failureList`).  So each form that is read is brought to the written one.
-/
namespace DocSchema

/-- The index of a trace element is a machine number. -/
def TraceElement.Sized (e : TraceElement) : Prop := ∀ i ∈ e.index, i < UInt64.size

/-- All indices of a failure are machine numbers. -/
def Failure.Sized (f : Failure) : Prop := ∀ e ∈ f.trace, e.Sized

/-- The number and all indices of the failure of a document are machine numbers. -/
def DocumentFailure.Sized (f : DocumentFailure) : Prop := f.document < UInt64.size ∧ f.failure.Sized

/-- All numbers and indices of failures are machine numbers. -/
def FailureList.Sized (l : FailureList) : Prop := ∀ f ∈ l.failures, f.Sized

namespace Failure.Codec
open Json Json.Shape

/-- All numbers of a part are machine numbers. -/
def Part.Sized : Part → Prop
  | .index i => ∀ n ∈ i, n < UInt64.size
  | .trace es => ∀ e ∈ es, e.Sized
  | .document n => n < UInt64.size
  | .error f => f.Sized
  | .errors fs => ∀ f ∈ fs, f.Sized
  | .text _ | .reason _ | .found _ => True

/-! ## Reading back -/

theorem readsBack_as {α : Type} {read : Read α} {text : List Char} {v : α} (part : α → Part)
    (h : ReadsBack read text v) : ReadsBack (as part read) text (part v) := h.map part

theorem readsBack_build {α : Type} {shape : List (FieldReader Part)}
    {make : List (Option Part) → Option α} {members : List (String × Json)} {parts : List Part}
    {v : α} (hnames : (shape.map Prod.fst).Nodup) (hfills : Fills shape members parts)
    (hmake : make (parts.map some) = some v) :
    ReadsBack (build shape make) (Json.object members).compact v := by
  have hfields := readsBack_fields hnames hfills
  refine ⟨hfields.start, fun rest hrest => ?_⟩
  rw [build, hfields.reads rest hrest]
  simp only [hmake]

theorem readsBack_element {e : TraceElement} (he : e.Sized) :
    ReadsBack element e.toJson.compact e := by
  have hindex : ReadsBack (optional natural) (ofOption (e.index.map nat)).compact e.index := by
    refine readsBack_optional fun i hi => ⟨readsBack_natural (he i hi), ?_⟩
    obtain ⟨c, cs, htext, hc⟩ := toDigits_eq_cons i
    rw [compact_nat, htext]
    rintro ⟨⟩
    exact absurd hc (by decide)
  have hfound : ReadsBack (optional text) (ofOption (e.found.map .string)).compact e.found :=
    readsBack_optional fun s _ => ⟨readsBack_text s, by simp [compact_string, quote]⟩
  have hfills : Fills elementShape _ [.text e.validator, .text e.field, .index e.index,
      .reason e.reason, .found e.found] :=
    .cons (readsBack_as .text (readsBack_text e.validator)) <|
    .cons (readsBack_as .text (readsBack_text e.field)) <|
    .cons (readsBack_as .index hindex) <|
    .cons (readsBack_as .reason (readsBack_name (Reason.ofLabel?_label e.reason))) <|
    .cons (readsBack_as .found hfound) .nil
  exact readsBack_build (by decide) hfills rfl

theorem readsBack_failure {f : Failure} (hf : f.Sized) : ReadsBack failure f.toJson.compact f := by
  have htrace :
      ReadsBack (many element) (Json.array (f.trace.map TraceElement.toJson)).compact f.trace :=
    readsBack_many (List.forall₂_map_left_iff.mpr
      (List.forall₂_same.mpr fun e he => readsBack_element (hf e he)))
  exact readsBack_build (by decide) (.cons (readsBack_as .trace htrace) .nil) rfl

theorem readsBack_documentFailure {f : DocumentFailure} (hf : f.Sized) :
    ReadsBack documentFailure f.toJson.compact f := by
  have hfills : Fills [("document", as .document natural), ("error", as .error failure)] _
      [.document f.document, .error f.failure] :=
    .cons (readsBack_as .document (readsBack_natural hf.1)) <|
    .cons (readsBack_as .error (readsBack_failure hf.2)) .nil
  exact readsBack_build (by decide) hfills rfl

theorem readsBack_failureList {l : FailureList} (hl : l.Sized) :
    ReadsBack failureList l.toJson.compact l := by
  have herrors : ReadsBack (many documentFailure)
      (Json.array (l.failures.map DocumentFailure.toJson)).compact l.failures :=
    readsBack_many (List.forall₂_map_left_iff.mpr
      (List.forall₂_same.mpr fun f hf => readsBack_documentFailure (hl f hf)))
  exact readsBack_build (by decide) (.cons (readsBack_as .errors herrors) .nil) rfl

/-! ## What is read from any text -/

theorem yields_as {α : Type} {read : Read α} {P : α → Prop} (h : Yields read P) {part : α → Part}
    (hpart : ∀ v, P v → (part v).Sized) : Yields (as part read) Part.Sized := h.map hpart

/-- A part without numbers, from whatever reader. -/
theorem yields_as_of_forall {α : Type} (read : Read α) {part : α → Part}
    (hpart : ∀ v, (part v).Sized) :
    Yields (as part read) Part.Sized :=
  yields_as (P := fun _ => True) (fun _ _ _ _ => trivial) fun v _ => hpart v

theorem yields_build {α : Type} {shape : List (FieldReader Part)}
    {make : List (Option Part) → Option α} {P : α → Prop}
    (hshape : ∀ f ∈ shape, Yields f.2 Part.Sized)
    (hmake : ∀ parts v, (∀ o ∈ parts, ∀ p ∈ o, Part.Sized p) → make parts = some v → P v) :
    Yields (build shape make) P := by
  intro s v rest h
  rw [build] at h
  split at h
  · rename_i parts rest' hparts
    split at h
    · rename_i w hw
      simp only [Except.ok.injEq, Prod.mk.injEq] at h
      exact h.1 ▸ hmake parts w (yields_fields hshape hparts) hw
    · simp [mismatch, Reader.atNext] at h
  · cases h

theorem yields_element : Yields element TraceElement.Sized := by
  refine yields_build ?_ ?_
  · simp only [elementShape, List.forall_mem_cons]
    exact ⟨yields_as_of_forall _ fun _ => trivial, yields_as_of_forall _ fun _ => trivial,
      yields_as yields_natural.optional fun _ h => h, yields_as_of_forall _ fun _ => trivial,
      yields_as_of_forall _ fun _ => trivial, by simp⟩
  · intro parts e hparts he
    unfold makeElement at he
    split at he
    · rename_i index _ _
      obtain rfl := Option.some.inj he
      have hindex : ∀ p ∈ index, Part.Sized p := hparts index (by simp)
      intro i hi
      dsimp only at hi
      split at hi
      · exact hindex _ rfl i hi
      · cases hi
    · cases he

theorem yields_failure : Yields failure Failure.Sized := by
  refine yields_build ?_ ?_
  · simp only [List.forall_mem_cons]
    exact ⟨yields_as yields_element.many fun _ h => h, by simp⟩
  · intro parts f hparts hf
    split at hf
    · obtain rfl := Option.some.inj hf
      exact hparts _ List.mem_cons_self _ rfl
    · cases hf

theorem yields_failureList : Yields failureList FailureList.Sized := by
  have hdocument : Yields documentFailure DocumentFailure.Sized := by
    refine yields_build ?_ ?_
    · simp only [List.forall_mem_cons]
      exact ⟨yields_as yields_natural fun _ h => h, yields_as yields_failure fun _ h => h, by simp⟩
    · intro parts f hparts hf
      split at hf
      · obtain rfl := Option.some.inj hf
        exact ⟨hparts _ List.mem_cons_self _ rfl,
          hparts _ (List.mem_cons_of_mem _ List.mem_cons_self) _ rfl⟩
      · cases hf
  refine yields_build ?_ ?_
  · simp only [List.forall_mem_cons]
    exact ⟨yields_as hdocument.many fun _ h => h, by simp⟩
  · intro parts l hparts hl
    split at hl
    · obtain rfl := Option.some.inj hl
      exact hparts _ List.mem_cons_self _ rfl
    · cases hl

end Failure.Codec

open Failure.Codec Json.Shape

/-- **Failures survive being written and read.**  What is written for failures with machine numbers
is read as the same failures; and what is read from any text at all, in whichever of its forms, is
read again from its own writing, which is then written unchanged. -/
theorem ofText?_toCompact_toJson :
    (∀ f : Failure, f.Sized → Failure.ofText? f.toJson.toCompact = some f) ∧
    (∀ l : FailureList, l.Sized → FailureList.ofText? l.toJson.toCompact = some l) ∧
    (∀ text f, Failure.ofText? text = some f →
      Failure.ofText? f.toJson.toCompact = some f ∧
      (Failure.ofText? f.toJson.toCompact).map (·.toJson.toCompact) = some f.toJson.toCompact) ∧
    (∀ text l, FailureList.ofText? text = some l →
      FailureList.ofText? l.toJson.toCompact = some l ∧
      (FailureList.ofText? l.toJson.toCompact).map (·.toJson.toCompact) =
        some l.toJson.toCompact) := by
  have hfailure : ∀ f : Failure, f.Sized → Failure.ofText? f.toJson.toCompact = some f :=
    fun f hf => ofText?_toCompact (readsBack_failure hf)
  have hlist : ∀ l : FailureList, l.Sized → FailureList.ofText? l.toJson.toCompact = some l :=
    fun l hl => ofText?_toCompact (readsBack_failureList hl)
  refine ⟨hfailure, hlist, fun text f hf => ?_, fun text l hl => ?_⟩
  · have hread := hfailure f (yields_failure.ofText? hf)
    exact ⟨hread, by rw [hread]; rfl⟩
  · have hread := hlist l (yields_failureList.ofText? hl)
    exact ⟨hread, by rw [hread]; rfl⟩

/-- An object in another order, with escapes, an unknown member and an absent one, and an array. -/
theorem ofText?_toCompact_toJson_forms :
    let f : Failure := ⟨[⟨"object", "a", some 18446744073709551615, .hookRejected, none⟩]⟩
    let l : FailureList := ⟨[⟨7, f⟩]⟩
    let object :=
      "\x7b\"more\": [1e400], \"trace\": [\x7b\"reason\": \x7b\"hook_rejected\": null\x7d, " ++
      "\"index\": 18446744073709551615, \"field\": \"\\u0061\", \"validator\": \"object\"\x7d]\x7d"
    let array := "[[[7, [[[\"object\", \"a\", 18446744073709551615, \"hook_rejected\", null]]]]]]"
    f.Sized ∧ l.Sized ∧ Failure.ofText? object = some f ∧ FailureList.ofText? array = some l ∧
      Failure.ofText? f.toJson.toCompact = some f ∧
      FailureList.ofText? l.toJson.toCompact = some l ∧
      (Failure.ofText? f.toJson.toCompact).map (·.toJson.toCompact) = some f.toJson.toCompact ∧
      (FailureList.ofText? l.toJson.toCompact).map (·.toJson.toCompact) =
        some l.toJson.toCompact := by
  intro f l object array
  have hf : f.Sized := by
    simp [f, Failure.Sized, TraceElement.Sized, UInt64.size]
  have hl : l.Sized := by
    simpa [l, FailureList.Sized, DocumentFailure.Sized, UInt64.size] using hf
  have hobject : Failure.ofText? object = some f := by decide +kernel
  have harray : FailureList.ofText? array = some l := by decide +kernel
  obtain ⟨hwritten, hwrittenList, hread, hreadList⟩ := ofText?_toCompact_toJson
  exact ⟨hf, hl, hobject, harray, hwritten f hf, hwrittenList l hl, (hread object f hobject).2,
    (hreadList array l harray).2⟩

end DocSchema
