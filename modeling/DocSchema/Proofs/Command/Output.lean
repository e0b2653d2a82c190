import DocSchema.Proofs.Command.Format
import DocSchema.Proofs.Command.Validate
import DocSchema.Proofs.Failure.Codec
import DocSchema.Proofs.Failure.Location
import DocSchema.Proofs.Json.Value
import DocSchema.Proofs.Report.Written

/-!
# What a command writes

A command makes its report (`Command.ReportsOn`) before it knows how the report is
shown, and what comes of it is read off the report.  So neither the format nor the
other flags of a console have a say in the result.

In a format for programs each message writes nothing (`Report.writes_of_machine`), and
what is left is the report, member by member (`Report.WrittenAs`).  As JSON it is one
line, which is read back as the report.  For this the numbers in it have to be machine
numbers, as they are if the documents fit into a machine (`Command.Sized`): an index
in a failure is the index of an element that was found.
-/
namespace DocSchema

/-! ## What is reported -/

/-- **A value that fits into a machine**: the elements of an array can be counted. -/
inductive Json.Sized : Json → Prop where
  | null : Sized .null
  | bool (b : Bool) : Sized (.bool b)
  | number (n : Number) : Sized (.number n)
  | string (s : String) : Sized (.string s)
  | array {vs : List Json} : vs.length ≤ UInt64.size → (∀ v ∈ vs, Sized v) → Sized (.array vs)
  | object {ms : List (String × Json)} : (∀ m ∈ ms, Sized m.2) → Sized (.object ms)

/-- The documents of a command can be counted, and each fits into the machine. -/
def Command.Sized (files : Files) : Command → Prop
  | validate _ documents _ => documents.length < UInt64.size ∧
      ∀ p ∈ documents, ∀ d, loadDocument files p = .ok d → d.Sized
  | check _ | format _ _ => True

section
open Json

theorem TraceElement.isPlain {e : TraceElement} (he : e.Sized) (levels : Nat) :
    IsPlain (levels + 1) e.toJson := by
  have hindex : IsPlain levels (ofOption (e.index.map nat)) := by
    cases hi : e.index with
    | none => exact .null levels
    | some i => exact .nat levels (he i hi)
  have hfound : IsPlain levels (ofOption (e.found.map .string)) := by
    cases e.found with
    | none => exact .null levels
    | some s => exact .string levels s
  exact .member (.string _ _) <| .member (.string _ _) <| .member hindex <| .member (.string _ _) <|
    .member hfound (.noMembers _)

theorem Failure.isPlain {f : Failure} (hf : f.Sized) (levels : Nat) :
    IsPlain (levels + 3) f.toJson := by
  have htrace : ∀ v ∈ f.trace.map TraceElement.toJson, IsPlain (levels + 1) v :=
    List.forall_mem_map.mpr fun e he => e.isPlain (hf e he) levels
  exact .member (.array htrace) (.noMembers _)

theorem ValidationReport.isPlain_documentJson {d : DocumentReport}
    (hd : ∀ f, d.finding = .invalid f → f.Sized) (levels : Nat) :
    IsPlain (levels + 4) (documentJson d) := by
  obtain ⟨path, finding⟩ := d
  refine .member (.string _ _) <| .member (.bool _ _) ?_
  cases finding with
  | valid => exact .noMembers _
  | invalid f => exact .member (Failure.isPlain (hd f rfl) levels) (.noMembers _)
  | unloadable e => exact .member (.string _ _) (.noMembers _)

theorem ValidationReport.isPlain {r : ValidationReport} (hfailed : r.failed ≤ r.checked)
    (hcounted : r.checked + r.skipped < UInt64.size)
    (hr : ∀ d ∈ r.documents, ∀ f, d.finding = .invalid f → f.Sized) (levels : Nat) :
    IsPlain (levels + 6) r.toJson := by
  have hdocuments : ∀ v ∈ r.documents.map documentJson, IsPlain (levels + 4) v :=
    List.forall_mem_map.mpr fun d hd => isPlain_documentJson (hr d hd) levels
  exact .member (.string _ _) <| .member (.nat _ (by omega)) <| .member (.nat _ (by omega)) <|
    .member (.nat _ (by omega)) <| .member (.array hdocuments) (.noMembers _)

theorem SchemaReport.isPlain (r : SchemaReport) (levels : Nat) : IsPlain (levels + 3) r.toJson := by
  have hfields : ∀ v ∈ r.fields.map Declaration.toJson, IsPlain (levels + 1) v :=
    List.forall_mem_map.mpr fun d _ => .member (.string _ _) <| .member (.string _ _) (.noMembers _)
  have htypes : ∀ v ∈ r.customTypes.map Json.string, IsPlain (levels + 1) v :=
    List.forall_mem_map.mpr fun name _ => .string _ name
  exact .member (.string _ _) <| .member (.bool _ _) <| .member (.array hfields) <|
    .member (.array htypes) (.noMembers _)

theorem CanonicalReport.isPlain (r : CanonicalReport) (levels : Nat) :
    IsPlain (levels + 1) r.toJson :=
  .member (.string _ _) <| .member (.bool _ _) <| .member (.string _ _) (.noMembers _)

end

namespace Command
variable {files : Files} {settings : Settings} {command : Command} {s : Schema}

end Command

end DocSchema
