import DocSchema.Command
import DocSchema.Proofs.Json.Value
import Mathlib.Data.List.Forall2

/-!
# What a report says as a value

A report is written for programs as an object.  `Report.WrittenAs` lists the members of
this object, and of those inside it, with what each has to say about the report.  The
members come in the order of the list when the report is written
(`Report.writtenAs_toJson`).  A document that is read back has them in the order of
their names, but has the same (`Report.WrittenAs.sorted`).
-/
namespace DocSchema

/-! ## Records -/

namespace Json

/-- How the members of an object have to stand, compared with those of a list. -/
abbrev MemberOrder := List (String × Json) → List (String × Json) → Prop

/-- **A record** is an object that has the members of a list and no others.  The list
says what name each member has, and what is true of its value. -/
def IsRecord (order : MemberOrder) (v : Json) (fields : List (String × (Json → Prop))) : Prop :=
  ∃ members inOrder, v = .object members ∧ order members inOrder ∧
    List.Forall₂ (fun member field => member.1 = field.1 ∧ field.2 member.2) inOrder fields

/-- An array with an element for each item of a list. -/
def IsListOf {α : Type} (written : α → Json → Prop) (items : List α) (v : Json) : Prop :=
  ∃ elements, v = .array elements ∧ List.Forall₂ written items elements

end Json

section
variable (order : Json.MemberOrder)

/-- The value says what the trace element does. -/
def TraceElement.WrittenAs (e : TraceElement) (v : Json) : Prop :=
  v.IsRecord order [
    ("validator", (· = .string e.validator)),
    ("field", (· = .string e.field)),
    ("index", (· = .ofOption (e.index.map .nat))),
    ("reason", (· = .string e.reason.label)),
    ("found", (· = .ofOption (e.found.map .string)))]

/-- The value says what the failure does. -/
def Failure.WrittenAs (f : Failure) (v : Json) : Prop :=
  v.IsRecord order [("trace", Json.IsListOf (TraceElement.WrittenAs order) f.trace)]

/-- The value says of a document what came of it: nothing more if it is valid, else its
failure, or why it cannot be loaded. -/
def DocumentReport.WrittenAs (d : DocumentReport) (v : Json) : Prop :=
  v.IsRecord order (
    [("path", (· = .string d.path)), ("valid", (· = .bool d.finding.isValid))] ++
    match d.finding with
    | .valid => []
    | .invalid f => [("error", f.WrittenAs order)]
    | .unloadable e => [("load_error", (· = .string e.message))])

/-- The value has the numbers of the report and an entry for each of its documents. -/
def ValidationReport.WrittenAs (r : ValidationReport) (v : Json) : Prop :=
  v.IsRecord order [
    ("schema", (· = .string r.schema)),
    ("checked", (· = .nat r.checked)),
    ("failed", (· = .nat r.failed)),
    ("skipped", (· = .nat r.skipped)),
    ("documents", Json.IsListOf (DocumentReport.WrittenAs order) r.documents)]

/-- The value says what the declaration does. -/
def Declaration.WrittenAs (d : Declaration) (v : Json) : Prop :=
  v.IsRecord order [("path", (· = .string d.path)), ("type", (· = .string d.type))]

/-- The value calls the schema valid, and has an entry for each field and each type that
settings add. -/
def SchemaReport.WrittenAs (r : SchemaReport) (v : Json) : Prop :=
  v.IsRecord order [
    ("schema", (· = .string r.schema)),
    ("valid", (· = .bool true)),
    ("fields", Json.IsListOf (Declaration.WrittenAs order) r.fields),
    ("custom_types", Json.IsListOf (fun name => (· = .string name)) r.customTypes)]

/-- The value has the canonical text, and says whether it is the one that was found. -/
def CanonicalReport.WrittenAs (r : CanonicalReport) (v : Json) : Prop :=
  v.IsRecord order [
    ("schema", (· = .string r.schema)),
    ("canonical", (· = .bool (r.found = r.formatted))),
    ("formatted", (· = .string r.formatted))]

/-- **The value says what the report does.** -/
def Report.WrittenAs : Report → Json → Prop
  | validation r => r.WrittenAs order
  | declarations r => r.WrittenAs order
  | canonical r _ => r.WrittenAs order

end

/-! ## Writing -/

theorem Json.isListOf_map {α : Type} {written : α → Json → Prop} {toJson : α → Json}
    (h : ∀ a, written a (toJson a)) (items : List α) :
    IsListOf written items (.array (items.map toJson)) :=
  ⟨_, rfl, List.forall₂_map_right_iff.mpr (List.forall₂_same.mpr fun a _ => h a)⟩

theorem TraceElement.writtenAs_toJson (e : TraceElement) : e.WrittenAs Eq e.toJson :=
  ⟨_, _, rfl, rfl, .cons ⟨rfl, rfl⟩ <| .cons ⟨rfl, rfl⟩ <| .cons ⟨rfl, rfl⟩ <|
    .cons ⟨rfl, rfl⟩ <| .cons ⟨rfl, rfl⟩ .nil⟩

theorem Failure.writtenAs_toJson (f : Failure) : f.WrittenAs Eq f.toJson :=
  ⟨_, _, rfl, rfl, .cons ⟨rfl, Json.isListOf_map TraceElement.writtenAs_toJson _⟩ .nil⟩

theorem DocumentReport.writtenAs_documentJson (d : DocumentReport) :
    d.WrittenAs Eq (ValidationReport.documentJson d) := by
  refine ⟨_, _, rfl, rfl, .cons ⟨rfl, rfl⟩ <| .cons ⟨rfl, rfl⟩ ?_⟩
  obtain ⟨path, finding⟩ := d
  cases finding with
  | valid => exact .nil
  | invalid f => exact .cons ⟨rfl, f.writtenAs_toJson⟩ .nil
  | unloadable e => exact .cons ⟨rfl, rfl⟩ .nil

theorem ValidationReport.writtenAs_toJson (r : ValidationReport) : r.WrittenAs Eq r.toJson :=
  ⟨_, _, rfl, rfl, .cons ⟨rfl, rfl⟩ <| .cons ⟨rfl, rfl⟩ <| .cons ⟨rfl, rfl⟩ <|
    .cons ⟨rfl, rfl⟩ <|
    .cons ⟨rfl, Json.isListOf_map DocumentReport.writtenAs_documentJson _⟩ .nil⟩

theorem Declaration.writtenAs_toJson (d : Declaration) : d.WrittenAs Eq d.toJson :=
  ⟨_, _, rfl, rfl, .cons ⟨rfl, rfl⟩ <| .cons ⟨rfl, rfl⟩ .nil⟩

theorem SchemaReport.writtenAs_toJson (r : SchemaReport) : r.WrittenAs Eq r.toJson := by
  have htypes : Json.IsListOf (fun name => (· = .string name)) r.customTypes
      (.array (r.customTypes.map .string)) := by
    refine Json.isListOf_map ?_ _
    exact fun _ => rfl
  exact ⟨_, _, rfl, rfl, .cons ⟨rfl, rfl⟩ <| .cons ⟨rfl, rfl⟩ <|
    .cons ⟨rfl, Json.isListOf_map Declaration.writtenAs_toJson _⟩ <| .cons ⟨rfl, htypes⟩ .nil⟩

theorem CanonicalReport.writtenAs_toJson (r : CanonicalReport) : r.WrittenAs Eq r.toJson :=
  ⟨_, _, rfl, rfl, .cons ⟨rfl, rfl⟩ <| .cons ⟨rfl, rfl⟩ <| .cons ⟨rfl, rfl⟩ .nil⟩

/-- **A report is written member by member.** -/
theorem Report.writtenAs_toJson (r : Report) : r.WrittenAs Eq r.toJson := by
  cases r with
  | validation r => exact r.writtenAs_toJson
  | declarations r => exact r.writtenAs_toJson
  | canonical r _ => exact r.writtenAs_toJson

/-! ## Reading back -/

namespace Json

/-- Sorting the members of a record leaves it a record, if its fields have different
names and what they say is still true of their values. -/
theorem IsRecord.sorted {v : Json} {fields fields' : List (String × (Json → Prop))}
    (h : v.IsRecord Eq fields) (hnames : (fields.map Prod.fst).Nodup)
    (hfields : List.Forall₂ (fun f f' => f.1 = f'.1 ∧ ∀ w, f.2 w → f'.2 w.sorted) fields fields') :
    v.sorted.IsRecord List.Perm fields' := by
  obtain ⟨members, _, rfl, rfl, hmembers⟩ := h
  have hkeys : Keyed.keys (sortedMembers members) = fields.map Prod.fst := by
    rw [sortedMembers_eq, Keyed.keys, List.map_map, ← List.forall₂_eq_eq_eq,
      List.forall₂_map_left_iff, List.forall₂_map_right_iff]
    exact hmembers.imp fun _ _ hm => hm.1
  rw [← hkeys] at hnames
  refine ⟨_, sortedMembers members, rfl, Keyed.sort_perm hnames, ?_⟩
  rw [sortedMembers_eq, List.forall₂_map_left_iff]
  clear hkeys hnames
  induction hmembers generalizing fields' with
  | nil =>
    cases hfields
    exact .nil
  | cons hm _ ih =>
    cases hfields with
    | cons hf hrest => exact .cons ⟨hm.1.trans hf.1, hf.2 _ hm.2⟩ (ih hrest)

theorem IsListOf.sorted {α : Type} {written written' : α → Json → Prop} {items : List α} {v : Json}
    (h : IsListOf written items v) (hitem : ∀ a w, written a w → written' a w.sorted) :
    IsListOf written' items v.sorted := by
  obtain ⟨elements, rfl, helements⟩ := h
  rw [Json.sorted, sortedElements_eq]
  exact ⟨_, rfl, List.forall₂_map_right_iff.mpr (helements.imp hitem)⟩

/-- What is said of a value without members stays true of it. -/
theorem sorted_eq_of {w : Json} (h : w.sorted = w) (v : Json) : v = w → v.sorted = w := by
  rintro rfl
  exact h

theorem sorted_ofOption {α : Type} {toJson : α → Json} (h : ∀ a, (toJson a).sorted = toJson a)
    (x : Option α) : (ofOption (x.map toJson)).sorted = ofOption (x.map toJson) := by
  cases x with
  | none => rfl
  | some a => exact h a

end Json

section
open Json

theorem TraceElement.WrittenAs.sorted {e : TraceElement} {v : Json} (h : e.WrittenAs Eq v) :
    e.WrittenAs List.Perm v.sorted :=
  IsRecord.sorted h (by simp) <|
    .cons ⟨rfl, sorted_eq_of rfl⟩ <| .cons ⟨rfl, sorted_eq_of rfl⟩ <|
    .cons ⟨rfl, sorted_eq_of (sorted_ofOption (fun _ => rfl) _)⟩ <|
    .cons ⟨rfl, sorted_eq_of rfl⟩ <|
    .cons ⟨rfl, sorted_eq_of (sorted_ofOption (fun _ => rfl) _)⟩ .nil

theorem Failure.WrittenAs.sorted {f : Failure} {v : Json} (h : f.WrittenAs Eq v) :
    f.WrittenAs List.Perm v.sorted :=
  IsRecord.sorted h (by simp) <|
    .cons ⟨rfl, fun _ hw => hw.sorted fun _ _ => TraceElement.WrittenAs.sorted⟩ .nil

theorem DocumentReport.WrittenAs.sorted {d : DocumentReport} {v : Json} (h : d.WrittenAs Eq v) :
    d.WrittenAs List.Perm v.sorted := by
  obtain ⟨path, finding⟩ := d
  refine IsRecord.sorted h ?_ <| .cons ⟨rfl, sorted_eq_of rfl⟩ <| .cons ⟨rfl, sorted_eq_of rfl⟩ ?_
  · cases finding <;> simp
  · cases finding with
    | valid => exact .nil
    | invalid f => exact .cons ⟨rfl, fun _ => Failure.WrittenAs.sorted⟩ .nil
    | unloadable e => exact .cons ⟨rfl, sorted_eq_of rfl⟩ .nil

theorem ValidationReport.WrittenAs.sorted {r : ValidationReport} {v : Json}
    (h : r.WrittenAs Eq v) : r.WrittenAs List.Perm v.sorted :=
  IsRecord.sorted h (by simp) <|
    .cons ⟨rfl, sorted_eq_of rfl⟩ <| .cons ⟨rfl, sorted_eq_of rfl⟩ <|
    .cons ⟨rfl, sorted_eq_of rfl⟩ <| .cons ⟨rfl, sorted_eq_of rfl⟩ <|
    .cons ⟨rfl, fun _ hw => hw.sorted fun _ _ => DocumentReport.WrittenAs.sorted⟩ .nil

theorem Declaration.WrittenAs.sorted {d : Declaration} {v : Json} (h : d.WrittenAs Eq v) :
    d.WrittenAs List.Perm v.sorted :=
  IsRecord.sorted h (by simp) <|
    .cons ⟨rfl, sorted_eq_of rfl⟩ <| .cons ⟨rfl, sorted_eq_of rfl⟩ .nil

theorem SchemaReport.WrittenAs.sorted {r : SchemaReport} {v : Json} (h : r.WrittenAs Eq v) :
    r.WrittenAs List.Perm v.sorted :=
  IsRecord.sorted h (by simp) <|
    .cons ⟨rfl, sorted_eq_of rfl⟩ <| .cons ⟨rfl, sorted_eq_of rfl⟩ <|
    .cons ⟨rfl, fun _ hw => hw.sorted fun _ _ => Declaration.WrittenAs.sorted⟩ <|
    .cons ⟨rfl, fun _ hw => hw.sorted fun _ => sorted_eq_of rfl⟩ .nil

theorem CanonicalReport.WrittenAs.sorted {r : CanonicalReport} {v : Json}
    (h : r.WrittenAs Eq v) : r.WrittenAs List.Perm v.sorted :=
  IsRecord.sorted h (by simp) <|
    .cons ⟨rfl, sorted_eq_of rfl⟩ <| .cons ⟨rfl, sorted_eq_of rfl⟩ <|
    .cons ⟨rfl, sorted_eq_of rfl⟩ .nil

end

/-- **What is read back says what the report does**, with the members in another order. -/
theorem Report.WrittenAs.sorted {r : Report} {v : Json} (h : r.WrittenAs Eq v) :
    r.WrittenAs List.Perm v.sorted := by
  cases r with
  | validation r => exact ValidationReport.WrittenAs.sorted h
  | declarations r => exact SchemaReport.WrittenAs.sorted h
  | canonical r _ => exact CanonicalReport.WrittenAs.sorted h

end DocSchema
