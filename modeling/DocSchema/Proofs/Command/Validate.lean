import DocSchema.Proofs.Batch
import DocSchema.Proofs.Report.Written

/-!
# The validate command

Each document has a finding of its own: it cannot be loaded, it does not conform,
or it conforms (`FindingOn`).  The report of the command depends on nothing but
these findings, in the order of the paths, and on where the batch ends
(`IsReportOn`).  What programs get of it has an entry for each document, and its
counters are those of the entries (`HasEntries`).  A batch that ends early ends with
a failure, so the verdict is the same as without a limit.

The failures of documents that all load are those that `Schema.validateAll` gives
for them, since a batch has one end.
-/
namespace DocSchema

/-! ## What the report says -/

/-- **What comes of the document at a path.** -/
inductive FindingOn (s : Schema) (files : Files) (path : String) : Finding → Prop where
  | valid {d : Json} {records : Context} : loadDocument files path = .ok d →
      s.validate d = .ok records → FindingOn s files path .valid
  | invalid {d : Json} {f : Failure} : loadDocument files path = .ok d →
      s.validate d = .error f → FindingOn s files path (.invalid f)
  | unloadable {e : LoadError} : loadDocument files path = .error e →
      FindingOn s files path (.unloadable e)

/-- **An entry of a report says one thing**: that the document is valid, what is
wrong with it, or why it cannot be loaded. -/
def SaysOneThing (entry : Json) : Prop :=
  let isValid := entry.get? "valid" = some (.bool true)
  let hasError := (entry.get? "error").isSome = true
  let hasLoadError := (entry.get? "load_error").isSome = true
  (isValid ∧ ¬ hasError ∧ ¬ hasLoadError) ∨ (¬ isValid ∧ hasError ∧ ¬ hasLoadError) ∨
    (¬ isValid ∧ ¬ hasError ∧ hasLoadError)

/-- An entry of a report calls its document valid. -/
def saysValid (entry : Json) : Bool :=
  match entry.get? "valid" with
  | some (.bool isValid) => isValid
  | _ => false

/-- **The entries of a report** are those of its documents.  Each says one thing, which
is what came of the document, and those that do not call their document valid are as
many as the report says. -/
structure HasEntries (r : ValidationReport) (entries : List Json) : Prop where
  documents : r.toJson.get? "documents" = some (.array entries)
  written : List.Forall₂ (DocumentReport.WrittenAs Eq) r.documents entries
  saysOneThing : ∀ entry ∈ entries, SaysOneThing entry
  checked : r.checked = entries.length
  failed : r.failed = entries.countP fun entry => !saysValid entry

/-- The failures in a report, each with the place of its document. -/
def ValidationReport.failures (r : ValidationReport) : List DocumentFailure :=
  failuresFrom 0 (r.documents.map (·.finding))

/-- **A report on findings.**  It has the findings up to the end of the batch, each
with its path, and counts them.  What programs get says the same. -/
structure IsReportOn (rule : StopRule) (paths : List String) (findings : List Finding)
    (r : ValidationReport) : Prop where
  ends : rule.EndsAfter findings r.checked
  documents : r.documents = (List.zipWith DocumentReport.mk paths findings).take r.checked
  length : r.documents.length = r.checked
  failed : r.failed = failureCount (r.documents.map (·.finding))
  failed_le : r.failed ≤ r.checked
  passed : r.failed + r.passed = r.checked
  skipped : r.checked + r.skipped = paths.length
  written : r.WrittenAs Eq r.toJson
  entries : ∃ entries, HasEntries r entries

/-! ## Findings -/

theorem findingOn_inspect (s : Schema) (files : Files) (path : String) :
    FindingOn s files path (s.inspect files path) := by
  rw [Schema.inspect]
  cases hload : loadDocument files path with
  | error e => exact .unloadable hload
  | ok d =>
    cases hvalidate : s.validate d with
    | error f => simpa only [hvalidate] using FindingOn.invalid hload hvalidate
    | ok records => simpa only [hvalidate] using FindingOn.valid hload hvalidate

/-- A document conforms if it loads and is accepted. -/
theorem FindingOn.isValid_iff {s : Schema} {files : Files} {path : String} {f : Finding}
    (h : FindingOn s files path f) :
    f.isValid = true ↔
      ∃ d records, loadDocument files path = .ok d ∧ s.validate d = .ok records := by
  cases h with
  | valid hload hvalidate => simp [Finding.isValid, hload, hvalidate]
  | invalid hload hvalidate => simp [Finding.isValid, hload, hvalidate]
  | unloadable hload => simp [Finding.isValid, hload]

/-- The finding on a document that loads is what comes of the document. -/
theorem map_inspect_of_loads {s : Schema} {files : Files} {paths : List String} {ds : List Json}
    (h : List.Forall₂ (fun p d => loadDocument files p = .ok d) paths ds) :
    paths.map (s.inspect files) = ds.map s.judge := by
  induction h with
  | nil => rfl
  | cons hload _ ih =>
    rw [List.map_cons, List.map_cons, ih, Schema.inspect, hload]
    rfl

theorem saysOneThing_documentJson (d : DocumentReport) :
    SaysOneThing (ValidationReport.documentJson d) := by
  obtain ⟨path, finding⟩ := d
  cases finding <;> simp [SaysOneThing, ValidationReport.documentJson, Finding.isValid, Json.get?,
    Keyed.get?_cons]

theorem saysValid_documentJson (d : DocumentReport) :
    saysValid (ValidationReport.documentJson d) = d.finding.isValid := by
  simp [saysValid, ValidationReport.documentJson, Keyed.get?_cons]

/-! ## The report -/

/-- The entries that are written are those of the documents, if the counters are. -/
theorem hasEntries_map_documentJson {r : ValidationReport}
    (hlength : r.documents.length = r.checked)
    (hfailed : r.failed = failureCount (r.documents.map (·.finding))) :
    HasEntries r (r.documents.map ValidationReport.documentJson) where
  documents := by simp [ValidationReport.toJson, Keyed.get?_cons]
  written := List.forall₂_map_right_iff.mpr
    (List.forall₂_same.mpr fun d _ => d.writtenAs_documentJson)
  saysOneThing := List.forall_mem_map.mpr fun d _ => saysOneThing_documentJson d
  checked := by rw [List.length_map, hlength]
  failed := by
    rw [hfailed, failureCount, List.countP_map, List.countP_map]
    exact List.countP_congr fun d _ => by simp [saysValid_documentJson]

theorem isReportOn_ofPaths (schema : String) (look : String → Finding) (rule : StopRule)
    (paths : List String) :
    IsReportOn rule paths (paths.map look) (ValidationReport.ofPaths schema look rule paths) := by
  obtain ⟨hends, hdocuments, hfailed⟩ := ValidationReport.ofPaths_ends schema look rule paths
  have hlength : (ValidationReport.ofPaths schema look rule paths).documents.length =
      (ValidationReport.ofPaths schema look rule paths).checked := rfl
  have hskipped : (ValidationReport.ofPaths schema look rule paths).skipped =
      paths.length - (ValidationReport.ofPaths schema look rule paths).checked := rfl
  generalize ValidationReport.ofPaths schema look rule paths = r at *
  have hchecked : r.checked ≤ paths.length := by
    rw [← hlength, hdocuments, List.length_take, List.length_map]
    exact Nat.min_le_right ..
  have hle : r.failed ≤ r.checked := by
    rw [hfailed, ← hlength, ← List.length_map (·.finding)]
    exact List.countP_le_length
  exact {
    ends := hends
    documents := by
      rw [List.zipWith_map_right, List.zipWith_self]
      exact hdocuments
    length := hlength
    failed := hfailed
    failed_le := hle
    passed := Nat.add_sub_cancel' hle
    skipped := by omega
    written := r.writtenAs_toJson
    entries := ⟨_, hasEntries_map_documentJson hlength hfailed⟩ }

/-- The findings of a report are the first ones of all. -/
theorem IsReportOn.map_finding {rule : StopRule} {look : String → Finding} {paths : List String}
    {r : ValidationReport} (h : IsReportOn rule paths (paths.map look) r) :
    r.documents.map (·.finding) = (paths.map look).take r.checked := by
  rw [h.documents, List.map_take, List.zipWith_map_right, List.zipWith_self, List.map_map]
  rfl

/-- No document in the report fails exactly if none at all does. -/
theorem IsReportOn.failed_eq_zero_iff {rule : StopRule} {look : String → Finding}
    {paths : List String} {r : ValidationReport} (h : IsReportOn rule paths (paths.map look) r) :
    r.failed = 0 ↔ ∀ p ∈ paths, (look p).isValid = true := by
  rw [h.failed, h.map_finding, h.ends.failureCount_take, failureCount_eq_zero_iff,
    List.forall_mem_map]

/-- **A report has the failures of the batch**, if all documents load. -/
theorem IsReportOn.failures_eq {s : Schema} {rule : StopRule} {files : Files}
    {paths : List String} {ds : List Json} {r : ValidationReport}
    (h : IsReportOn rule paths (paths.map (s.inspect files)) r)
    (hds : List.Forall₂ (fun p d => loadDocument files p = .ok d) paths ds) :
    FailureList.ofResult (s.validateAll rule ds) = r.failures := by
  have hjudge := map_inspect_of_loads (s := s) hds
  obtain ⟨k, hends, hfailures⟩ := s.collect_ends ds rule.allows_nil
  rw [List.nil_append, List.length_nil, Nat.zero_add, ← hjudge] at hends
  obtain rfl := hends.unique h.ends
  rw [s.ofResult_validateAll, ValidationReport.failures, h.map_finding, hjudge]
  exact hfailures

/-- The result of the command is decided by the number of failures. -/
theorem Command.result_validate {settings : Settings} {files : Files} {path : String} {s : Schema}
    (hload : settings.loadSchema files path = .ok s) (paths : List String) (rule : StopRule)
    (c : Console) {r : ValidationReport}
    (hr : r = ValidationReport.ofPaths path (s.inspect files) rule paths) :
    ((validate path paths rule).run files settings c).result =
      if r.failed = 0 then .ok () else .error (.invalidDocuments r.failed r.checked) := by
  simp only [run, report, schema, hload, reportOn, ← hr, Report.verdict, Nat.pos_iff_ne_zero]
  by_cases h : r.failed = 0 <;> simp [h]

/-- **Validation reports independent findings.**  With a schema that loads, the
report of the validate command is one on the findings of all documents.  The
command succeeds exactly if all documents conform, whatever ends the batch, and
otherwise says how many of those in the report failed.  The failures of documents
that all load are those of the batch. -/
theorem validate_reports_findings {settings : Settings} {files : Files} {path : String} {s : Schema}
    (hload : settings.loadSchema files path = .ok s) (paths : List String) (rule : StopRule) :
    ∃ findings r, List.Forall₂ (FindingOn s files) paths findings ∧
      (Command.validate path paths rule).report files settings = .ok (.validation r) ∧
      r.schema = path ∧ IsReportOn rule paths findings r ∧
      (∀ c, (((Command.validate path paths rule).run files settings c).result = .ok () ↔
          ∀ p ∈ paths, ∃ d records,
            loadDocument files p = .ok d ∧ s.validate d = .ok records) ∧
        (((Command.validate path paths rule).run files settings c).result ≠ .ok () →
          ((Command.validate path paths rule).run files settings c).result =
            .error (.invalidDocuments r.failed r.checked))) ∧
      (CommandError.invalidDocuments r.failed r.checked).exitCode = 2 ∧
      ∀ ds, List.Forall₂ (fun p d => loadDocument files p = .ok d) paths ds →
        FailureList.ofResult (s.validateAll rule ds) = r.failures := by
  have hreport := isReportOn_ofPaths path (s.inspect files) rule paths
  refine ⟨paths.map (s.inspect files), ValidationReport.ofPaths path (s.inspect files) rule paths,
    ?_, ?_, rfl, hreport, fun c => ?_, rfl, fun ds hds => hreport.failures_eq hds⟩
  · rw [List.forall₂_map_right_iff, List.forall₂_same]
    exact fun p _ => findingOn_inspect s files p
  · simp only [Command.report, Command.schema, hload, Command.reportOn]
  · have hvalid := hreport.failed_eq_zero_iff
    simp only [(findingOn_inspect s files _).isValid_iff] at hvalid
    rw [Command.result_validate hload paths rule c rfl, ← hvalid]
    by_cases h : (ValidationReport.ofPaths path (s.inspect files) rule paths).failed = 0 <;>
      simp [h]

/-- With a limit of one failure the report ends with the second of three documents,
if this is the first that does not conform. -/
theorem validate_stops_at_first_failure :
    ∃ (files : Files) (s : Schema) (r : ValidationReport),
      ({} : Settings).loadSchema files "a.jsons" = .ok s ∧
      (Command.validate "a.jsons" ["x.json", "0.json", "x.json"]
          { maxErrors := 1 }).report files {} =
        .ok (.validation r) ∧
      r.checked = 2 ∧ r.skipped = 1 ∧
      FailureList.ofResult (s.validateAll { maxErrors := 1 } [.object [("a", .string "x")],
        .object [("a", .null)], .object [("a", .string "x")]]) = r.failures := by
  let files := Files.ofList [("a.jsons", .ok (.file (Bytes.ofText "a:String\n"))),
    ("x.json", .ok (.file (Bytes.ofText "\x7b\"a\":\"x\"\x7d"))),
    ("0.json", .ok (.file (Bytes.ofText "\x7b\"a\":null\x7d")))]
  let s : Schema := ⟨none, [("a", .leaf .string)]⟩
  have hload : ({} : Settings).loadSchema files "a.jsons" = .ok s := rfl
  have hformats : ∀ path ∈ ["x.json", "0.json"], DocumentFormat.ofPath? path = some .json := by
    decide +kernel
  have hvalid : loadDocument files "x.json" = .ok (.object [("a", .string "x")]) := by
    rw [loadDocument, hformats "x.json" (by simp)]
    rfl
  have hinvalid : loadDocument files "0.json" = .ok (.object [("a", .null)]) := by
    rw [loadDocument, hformats "0.json" (by simp)]
    rfl
  obtain ⟨findings, r, hfindings, hreport, -, hr, -, -, hfailures⟩ :=
    validate_reports_findings hload ["x.json", "0.json", "x.json"] { maxErrors := 1 }
  have hchecked : r.checked = 2 := by
    obtain ⟨first, _, hfirst, hrest, rfl⟩ := List.forall₂_cons_left_iff.mp hfindings
    obtain ⟨second, _, hsecond, _, rfl⟩ := List.forall₂_cons_left_iff.mp hrest
    have haccepted : first.isValid = true := hfirst.isValid_iff.mpr ⟨_, _, hvalid, rfl⟩
    have hrefused : second.isValid = false := by
      refine Bool.eq_false_iff.mpr fun h => ?_
      obtain ⟨d, records, hd, hrecords⟩ := hsecond.isValid_iff.mp h
      obtain rfl := Except.ok.inj (hinvalid.symm.trans hd)
      cases hrecords
    have hlimit : StopRule.limit { maxErrors := 1 } = some (failureCount [first] + 1) := by
      simp [StopRule.limit, failureCount, haccepted]
    exact hr.ends.unique (.atLimit hrefused hlimit)
  refine ⟨files, _, r, hload, hreport, hchecked, ?_, ?_⟩
  · have hskipped : r.checked + r.skipped = 3 := hr.skipped
    omega
  · exact hfailures _ (.cons hvalid (.cons hinvalid (.cons hvalid .nil)))

end DocSchema
