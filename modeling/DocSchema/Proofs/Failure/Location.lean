import DocSchema.Proofs.Notation.Expressible
import DocSchema.Proofs.Obligations
import DocSchema.Schema

/-!
# Where a failure points

A trace is put together on the way out of a validation, from names and indices
that were passed down on the way in.  Read from its last element to its first, it
is a walk down the document: each element names a member of the value that was
reached before, and an element of that member if it has an index, and it tells
the kind of what is found there.  At the end of the walk stands the value that
was refused, or the name of a member that is missing (`Locates`).

What a trace looks like is settled by the obligation that failed, whatever was
recorded before it.  So the walk is found for each obligation of a validator, by
induction on the validator (`locates_of_mem_obligations`), and a run that fails
adds only which obligation it was.  Arrays add no element of their own: they
replace the index of the position that is passed on.  This is why the walk is
unambiguous only where no array validator directly wraps another (`FlatArrays`),
which is so in every schema that is read from a text.
-/
namespace DocSchema

/-! ## Steps through a document and a validator -/

/-- The position that an element of a trace names. -/
def TraceElement.position (e : TraceElement) : Position := ⟨e.field, e.index⟩

/-- What stands at a position below a value: the member of that name, or the
element of that member if the position has an index. -/
def Json.at? (node : Json) (pos : Position) : Option Json :=
  match pos.index with
  | none => node.get? pos.name
  | some i => (node.get? pos.name).bind (·.element? i)

/-- What the fields of an object require at a position: of the member, or of each
element of the array that the member has to be. -/
inductive Requires (fields : List (String × Validator)) : Position → Validator → Prop where
  | member {name : String} {v : Validator} : (name, v) ∈ fields → Requires fields ⟨name, none⟩ v
  | item {name : String} {e : Validator} (i : Nat) : (name, .array e) ∈ fields →
      Requires fields ⟨name, some i⟩ e

/-- No array validator directly wraps another one. -/
inductive Validator.FlatArrays : Validator → Prop where
  | leaf (l : Leaf) : FlatArrays (.leaf l)
  | array {e : Validator} : e.element? = none → FlatArrays e → FlatArrays (.array e)
  | object {hook : Option Hook} {fields : List (String × Validator)} :
      (∀ f ∈ fields, FlatArrays f.2) → FlatArrays (.object hook fields)

/-! ## Traces that locate a fault -/

/-- The element stands for a validator at a value. -/
structure TraceElement.StandsFor (e : TraceElement) (v : Validator) (node : Json) : Prop where
  validator : e.validator = v.token
  found : e.found = some node.kind.label

/-- Why a validator itself refuses a value, given what is recorded: the check of
a leaf says no, a value that has to be an array is none, or the hook of an object
says no. -/
inductive Refuses (c : Context) (node : Json) : Validator → Reason → Prop where
  | rejected {l : Leaf} : (l.check node c).1 = false → Refuses c node (.leaf l) .rejected
  | notAnArray {e : Validator} : node.is .array = false → Refuses c node (.array e) .notAnArray
  | hookRejected {h : Hook} {fields : List (String × Validator)} : (h.check node c).1 = false →
      Refuses c node (.object (some h) fields) .hookRejected

/-- **Elements that locate a fault**, the outermost first.  The first of them
stands for a validator at a value.  It is the last one if that validator refuses
the value; otherwise it passes on what is wrong with a field: either the next
element names a member that the value does not have, or its position leads on to
a value below, for which the next element stands. -/
inductive Locates (c : Context) : Validator → Json → List TraceElement → Prop where
  | fault {v : Validator} {node : Json} {e : TraceElement} : e.StandsFor v node →
      Refuses c node v e.reason → Locates c v node [e]
  | missing {hook : Option Hook} {fields : List (String × Validator)} {node : Json}
      {e : TraceElement} {name : String} {v : Validator} :
      e.StandsFor (.object hook fields) node → e.reason = .nested → (name, v) ∈ fields →
      node.get? name = none → Locates c (.object hook fields) node [e, .missing v.token name]
  | deeper {hook : Option Hook} {fields : List (String × Validator)} {node value : Json}
      {e next : TraceElement} {rest : List TraceElement} {v : Validator} :
      e.StandsFor (.object hook fields) node → e.reason = .nested →
      Requires fields next.position v → node.at? next.position = some value →
      Locates c v value (next :: rest) → Locates c (.object hook fields) node (e :: next :: rest)

/-- A document is refused with what is recorded when the first obligation says
no. -/
def Schema.StopsWith (s : Schema) (d : Json) (c : Context) : Prop :=
  ∃ before o after, s.root.toValidator.obligations d = before ++ o :: after ∧
    Obligation.runAll ⟨"", none⟩ before Context.empty = (.ok (), c) ∧ (o.test c).1 = false

theorem Refuses.ne_nested {c : Context} {node : Json} {v : Validator} {reason : Reason}
    (h : Refuses c node v reason) : reason ≠ .nested := by
  cases h <;> decide

/-- Only the innermost element says why. -/
theorem Locates.reasons {c : Context} {v : Validator} {node : Json} {es : List TraceElement}
    (h : Locates c v node es) : (∀ e ∈ es.dropLast, e.reason = .nested) ∧
      ∀ e, es.getLast? = some e → e.reason ≠ .nested := by
  induction h with
  | fault _ hrefuses =>
    refine ⟨by simp, fun e he => ?_⟩
    obtain rfl : _ = e := by simpa using he
    exact hrefuses.ne_nested
  | missing _ hnested _ _ =>
    refine ⟨by simpa using hnested, fun e he => ?_⟩
    obtain rfl : _ = e := by simpa using he
    simp [TraceElement.missing]
  | @deeper _ _ _ _ e next rest _ _ hnested _ _ _ ih =>
    refine ⟨fun e' he' => ?_, fun e' he' => ih.2 e' (by simpa using he')⟩
    rw [List.dropLast_cons_of_ne_nil (List.cons_ne_nil _ _)] at he'
    rcases List.mem_cons.mp he' with rfl | he'
    · exact hnested
    · exact ih.1 e' he'

/-! ## The walk to an obligation -/

/-- What a validator at a position leads to first: the value itself, or an element
of it, whose position has the same name. -/
inductive Enters (node : Json) (pos : Position) :
    Validator → Position → Validator → Json → Prop where
  | here {v : Validator} : Enters node pos v pos v node
  | item {e : Validator} {i : Nat} {value : Json} : node.element? i = some value →
      Enters node pos (.array e) ⟨pos.name, some i⟩ e value

/-- The member of an object and what a validator of it leads to first are steps
from the object. -/
theorem Enters.requires {fields : List (String × Validator)} {node member value : Json}
    {name : String} {v w : Validator} {pos : Position} (hfield : (name, v) ∈ fields)
    (hmember : node.get? name = some member) (h : Enters member ⟨name, none⟩ v pos w value) :
    Requires fields pos w ∧ node.at? pos = some value := by
  cases h with
  | here => exact ⟨.member hfield, hmember⟩
  | item hitem =>
    refine ⟨.item _ hfield, ?_⟩
    rw [Json.at?, hmember]
    exact hitem

theorem exists_of_mem_fieldObligations {o : Obligation} {fields : List (String × Validator)}
    {node : Json} (h : o ∈ fieldObligations fields node) :
    ∃ name v, (name, v) ∈ fields ∧
      ((node.get? name = none ∧ o = { demand := .member v.token name, node }) ∨
        ∃ member o', node.get? name = some member ∧ o' ∈ v.obligations member ∧
          o = o'.under (.inner ⟨name, none⟩)) := by
  induction fields with
  | nil => simp [fieldObligations] at h
  | cons field rest ih =>
    obtain ⟨name, v⟩ := field
    rw [fieldObligations, List.mem_append] at h
    rcases h with h | h
    · refine ⟨name, v, List.mem_cons_self, ?_⟩
      cases hmember : node.get? name with
      | none =>
        rw [hmember] at h
        exact .inl ⟨rfl, List.mem_singleton.mp h⟩
      | some member =>
        rw [hmember] at h
        obtain ⟨o', ho', rfl⟩ := List.mem_map.mp h
        exact .inr ⟨member, o', rfl, ho', rfl⟩
    · obtain ⟨name', v', hfield, hrest⟩ := ih h
      exact ⟨name', v', List.mem_cons_of_mem _ hfield, hrest⟩

/-- **Every obligation is located.**  If an obligation of a validator says no, the
elements of its failure, from the outermost on, lead from what the validator
enters first to the fault. -/
theorem locates_of_mem_obligations {v : Validator} (hflat : v.FlatArrays) {node : Json}
    {o : Obligation} (hmem : o ∈ v.obligations node) {c : Context} (hno : (o.test c).1 = false)
    (pos : Position) :
    ∃ e es w value, (o.failure pos).trace.reverse = e :: es ∧ Enters node pos v e.position w value ∧
      Locates c w value (e :: es) := by
  induction hflat generalizing node o pos with
  | leaf l =>
    rw [Validator.obligations, List.mem_singleton] at hmem
    subst hmem
    exact ⟨_, _, _, _, rfl, .here, .fault ⟨rfl, rfl⟩ (.rejected hno)⟩
  | @array e hnotArray _ ih =>
    rw [Validator.obligations, List.mem_cons, List.mem_flatMap] at hmem
    rcases hmem with rfl | ⟨⟨value, i⟩, hitem, hmem⟩
    · exact ⟨_, _, _, _, rfl, .here, .fault ⟨rfl, rfl⟩ (.notAnArray hno)⟩
    · obtain ⟨o', ho', rfl⟩ := List.mem_map.mp hmem
      have hvalue : node.element? i = some value := List.mk_mem_zipIdx_iff_getElem?.mp hitem
      obtain ⟨e', es, w, value', htrace, henters, hlocates⟩ := ih ho' hno ⟨pos.name, some i⟩
      rw [← Place.locate, ← Obligation.failure_under] at htrace
      -- The element is no array, so what it leads to first is itself.
      generalize hposition : e'.position = position at henters
      cases henters with
      | here => exact ⟨e', es, _, _, htrace, hposition ▸ .item hvalue, hlocates⟩
      | item _ => cases hnotArray
  | @object hook fields _ ih =>
    rw [Validator.obligations, List.mem_append] at hmem
    rcases hmem with hmem | hmem
    · obtain ⟨o', ho', rfl⟩ := List.mem_map.mp hmem
      obtain ⟨name, v, hfield, ⟨hnone, rfl⟩ | ⟨member, o'', hmember, ho'', rfl⟩⟩ :=
        exists_of_mem_fieldObligations ho'
      · exact ⟨_, _, _, _, rfl, .here, .missing ⟨rfl, rfl⟩ rfl hfield hnone⟩
      · obtain ⟨e, es, w, value, htrace, henters, hlocates⟩ :=
          ih (name, v) hfield ho'' hno ⟨name, none⟩
        obtain ⟨hrequires, hvalue⟩ := henters.requires hfield hmember
        have hfailure : ((o''.under (.inner ⟨name, none⟩)).inside
            { token := Hook.token hook, node }).failure pos =
            (o''.failure ⟨name, none⟩).within (.atNode (Hook.token hook) node pos .nested) := by
          rw [Obligation.failure_inside, Obligation.failure_under]
          rfl
        refine ⟨.atNode (Hook.token hook) node pos .nested, e :: es, _, _, ?_, .here,
          .deeper ⟨rfl, rfl⟩ rfl hrequires hvalue hlocates⟩
        rw [hfailure, Failure.trace_within, List.reverse_append, htrace]
        rfl
    · cases hook with
      | none => cases hmem
      | some h =>
        obtain rfl := List.mem_singleton.mp hmem
        exact ⟨_, _, _, _, rfl, .here, .fault ⟨rfl, rfl⟩ (.hookRejected hno)⟩

/-! ## Failures of documents -/

/-- A document is refused by its first obligation that says no. -/
theorem Schema.validate_eq_error_iff {s : Schema} {d : Json} {f : Failure} :
    s.validate d = .error f ↔
      ∃ before o after c, s.root.toValidator.obligations d = before ++ o :: after ∧
        Obligation.runAll ⟨"", none⟩ before Context.empty = (.ok (), c) ∧ (o.test c).1 = false ∧
        f = o.failure ⟨"", none⟩ := by
  have hrun : s.validate d = .error f ↔
      ∃ c, Obligation.runAll ⟨"", none⟩ (s.root.toValidator.obligations d) Context.empty =
        (.error f, c) := by
    rw [← Validator.validate_eq_runAll]
    unfold Schema.validate ObjectValidator.validate
    rcases s.root.toValidator.validate d ⟨"", none⟩ Context.empty with ⟨_ | _, _⟩ <;> simp
  rw [hrun]
  constructor
  · rintro ⟨c', h⟩
    obtain ⟨before, o, after, c, hsplit, hbefore, htest, rfl⟩ := Obligation.runAll_eq_error_iff.mp h
    exact ⟨before, o, after, c, hsplit, hbefore, by rw [htest], rfl⟩
  · rintro ⟨before, o, after, c, hsplit, hbefore, htest, rfl⟩
    exact ⟨(o.test c).2, Obligation.runAll_eq_error_iff.mpr
      ⟨before, o, after, c, hsplit, hbefore, Prod.ext htest rfl, rfl⟩⟩

/-- The trace of a refused document starts at the document and locates the
fault. -/
theorem Schema.locates_of_validate {s : Schema} {d : Json} {f : Failure}
    (hflat : s.root.toValidator.FlatArrays) (h : s.validate d = .error f) :
    ∃ root steps c, f.trace.reverse = root :: steps ∧ root.position = ⟨"", none⟩ ∧
      s.StopsWith d c ∧ Locates c s.root.toValidator d (root :: steps) := by
  obtain ⟨before, o, after, c, hsplit, hbefore, htest, rfl⟩ := Schema.validate_eq_error_iff.mp h
  have hmem : o ∈ s.root.toValidator.obligations d := by
    rw [hsplit]
    exact List.mem_append_right _ List.mem_cons_self
  obtain ⟨root, steps, w, value, htrace, henters, hlocates⟩ :=
    locates_of_mem_obligations hflat hmem htest ⟨"", none⟩
  generalize hposition : root.position = position at henters
  cases henters with
  | here =>
    exact ⟨root, steps, c, htrace, hposition, ⟨before, o, after, hsplit, hbefore, htest⟩, hlocates⟩

namespace Notation

/-- The trees of schemas have no arrays of arrays. -/
theorem Expressible.flatArrays {r : Registry} {v : Validator} (h : Expressible r v) :
    v.FlatArrays := by
  induction h with
  | string | boolean | int | pattern _ | element _ => exact .leaf _
  | elements _ => exact .array rfl (.leaf _)
  | object _ _ _ ih => exact .object ih
  | objects _ _ _ ih => exact .array rfl (.object ih)

theorem flatArrays_of_readBytes {r : Registry} {bytes : Bytes} {o : ObjectValidator}
    (h : readBytes r bytes = .ok o) : o.toValidator.FlatArrays :=
  .object fun f hf => ((isExpressible_of_outlines (readAll_eq_ok_iff.mp h)).fields f hf).flatArrays

end Notation

/-- **A trace locates the failure** in the document, for every schema without
arrays of arrays, so for every schema that is read from a text.  Its last element
is the document itself, and from there the elements lead, one position at a time,
to the value that was refused, or to the name of the member that is missing.  The
innermost element says why, by what was recorded when validation stopped; all
others only pass the failure on. -/
theorem trace_locates_failure :
    (∀ (r : Registry) (bytes : Bytes) (o : ObjectValidator),
      Notation.readBytes r bytes = .ok o → o.toValidator.FlatArrays) ∧
    ∀ (s : Schema) (d : Json) (f : Failure), s.root.toValidator.FlatArrays →
      s.validate d = .error f →
        ∃ root steps c, f.trace.reverse = root :: steps ∧ root.position = ⟨"", none⟩ ∧
          s.StopsWith d c ∧ Locates c s.root.toValidator d (root :: steps) ∧
          (∀ e ∈ f.trace.tail, e.reason = .nested) ∧
          ∀ e, f.innermost = some e → e.reason ≠ .nested := by
  refine ⟨fun _ _ _ => Notation.flatArrays_of_readBytes, fun s d f hflat h => ?_⟩
  obtain ⟨root, steps, c, htrace, hroot, hstops, hlocates⟩ := Schema.locates_of_validate hflat h
  obtain ⟨hnested, hinnermost⟩ := hlocates.reasons
  rw [← htrace, List.dropLast_reverse] at hnested
  rw [← htrace, List.getLast?_reverse] at hinnermost
  exact ⟨root, steps, c, htrace, hroot, hstops, hlocates,
    fun e he => hnested e (List.mem_reverse.mpr he), hinnermost⟩

/-- The size of the second item is missing. -/
theorem trace_locates_missing_size :
    let bytes := Bytes.ofText "items:Object[]\n\tsize:Int\n"
    let s : Schema := ⟨{ fields := [("items", .array (.object none [("size", .leaf .int)]))] }⟩
    let d : Json := .object [("items", .array [.object [("size", .nat 1)], .null])]
    let f : Failure := ⟨[⟨"Int", "size", none, .missingField, none⟩,
      ⟨"Object", "items", some 1, .nested, some "null"⟩,
      ⟨"Object", "", none, .nested, some "object"⟩]⟩
    Notation.readBytes Registry.empty bytes = .ok s.root ∧ s.root.toValidator.FlatArrays ∧
      s.validate d = .error f ∧
      ∃ root steps c, f.trace.reverse = root :: steps ∧ root.position = ⟨"", none⟩ ∧
        s.StopsWith d c ∧ Locates c s.root.toValidator d (root :: steps) := by
  intro bytes s d f
  have hread : Notation.readBytes Registry.empty bytes = .ok s.root := by rfl
  have hflat := trace_locates_failure.1 _ _ _ hread
  have hfails : s.validate d = .error f := by rfl
  obtain ⟨root, steps, c, htrace, hroot, hstops, hlocates, -, -⟩ :=
    trace_locates_failure.2 s d f hflat hfails
  exact ⟨hread, hflat, hfails, root, steps, c, htrace, hroot, hstops, hlocates⟩

end DocSchema
