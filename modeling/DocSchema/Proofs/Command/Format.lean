import DocSchema.Command
import DocSchema.Proofs.Notation.Canonical

/-!
# The format command

A schema that is loaded is read from the bytes of a text, since no line of it is
undecodable.  The format command compares this text with what writing gives for
the schema, so its verdict is whether the text is canonical.

What the command prints is a schema text like any other.  It can be stored under
any path: it loads as the same schema, with the same types, and formatting it
prints it again.
-/
namespace DocSchema

/-! ## Loading a schema -/

namespace Files
variable {files : Files} {path : String}

theorem read_eq_ok_iff {content : Bytes} :
    files.read path = .ok content ↔ files.find path = .ok (.file content) := by
  rw [read]
  cases files.find path with
  | error e => simp
  | ok entry => cases entry <;> simp

theorem has_of_find {entry : Entry} (h : files.find path = .ok entry) : files.has path = true := by
  rw [has, h]
  rfl

theorem readText_of_find {found : String}
    (h : files.find path = .ok (.file (Bytes.ofText found))) : files.readText path = .ok found := by
  rw [readText, read_eq_ok_iff.mpr h]
  simp

end Files

/-- With given types, loading a schema is reading a file. -/
theorem loadSchema_eq_ok_iff {registry : Registry} {files : Files} {path : String} {s : Schema} :
    loadSchema registry files path = .ok s ↔
      ∃ content, files.find path = .ok (.file content) ∧
        Notation.readBytes registry content = .ok s.root := by
  rw [loadSchema]
  constructor
  · intro h
    cases hread : files.read path with
    | error e => simp [hread] at h
    | ok content =>
      cases hroot : Notation.readBytes registry content with
      | error e => simp [hread, hroot] at h
      | ok root =>
        simp only [hread, hroot, Except.ok.injEq] at h
        exact ⟨content, Files.read_eq_ok_iff.mp hread, by rw [hroot, ← h]⟩
  · rintro ⟨content, hfind, hroot⟩
    simp only [Files.read_eq_ok_iff.mpr hfind, hroot]

/-- **Settings define the types** with which a schema is loaded. -/
theorem Settings.loadSchema_eq_ok_iff {settings : Settings} {files : Files} {path : String}
    {s : Schema} :
    settings.loadSchema files path = .ok s ↔
      ∃ registry, settings.registry = .ok registry ∧
        DocSchema.loadSchema registry files path = .ok s := by
  rw [Settings.loadSchema]
  constructor
  · intro h
    by_cases hhas : files.has path = true
    · rw [if_pos hhas] at h
      cases hregistry : settings.registry with
      | error fault => simp [hregistry] at h
      | ok registry =>
        cases hload : DocSchema.loadSchema registry files path with
        | error e => simp [hregistry, hload] at h
        | ok s' =>
          simp only [hregistry, hload, Except.ok.injEq] at h
          exact ⟨registry, rfl, by rw [hload, h]⟩
    · rw [if_neg hhas] at h
      cases h
  · rintro ⟨registry, hregistry, hload⟩
    obtain ⟨content, hfind, -⟩ := DocSchema.loadSchema_eq_ok_iff.mp hload
    simp only [if_pos (Files.has_of_find hfind), hregistry, hload]

namespace Command

/-- The report of the format command on a text that is read as a schema. -/
theorem report_format {settings : Settings} {files : Files} {path found : String} {s : Schema}
    (hload : settings.loadSchema files path = .ok s) (hfound : files.readText path = .ok found)
    (onlyVerdict : Bool) :
    (format path onlyVerdict).report files settings =
      .ok (.canonical ⟨path, found, Notation.write s.root⟩ onlyVerdict) := by
  simp [report, schema, hload, reportOn, hfound]

/-- Without the verdict, people get the canonical text. -/
theorem run_format {settings : Settings} {files : Files} {path found : String} {s : Schema}
    (hload : settings.loadSchema files path = .ok s) (hfound : files.readText path = .ok found)
    {c : Console} (hc : c.isHuman = true) :
    (format path false).run files settings c = ⟨Notation.write s.root, .ok ()⟩ := by
  rw [run, report_format hload hfound]
  simp [Report.shown, Report.writes, Report.verdict, CanonicalReport.text, hc]

/-- The verdict is whether writing the schema gives back its text. -/
theorem result_format_verdict {settings : Settings} {files : Files} {path found : String}
    {s : Schema} (hload : settings.loadSchema files path = .ok s)
    (hfound : files.readText path = .ok found) (c : Console) :
    ((format path true).run files settings c).result =
      if Notation.write s.root = found then .ok () else .error (.notCanonical path) := by
  rw [run, report_format hload hfound]
  by_cases h : Notation.write s.root = found
  · simp [Report.verdict, CanonicalReport.isCanonical, h]
  · simp [Report.verdict, CanonicalReport.isCanonical, h, Ne.symm h]

end Command

/-! ## What the command says -/

open Notation in
/-- **Formatting makes texts canonical.**  For a schema file that loads, the
verdict of the format command is whether the text of the file is canonical.  What
the command prints is canonical; stored in any file it loads as the same schema,
and is printed again. -/
theorem format_prints_canonical_text {settings : Settings} {files : Files} {path : String}
    {s : Schema} (hload : settings.loadSchema files path = .ok s) :
    (∃ found, files.find path = .ok (.file (Bytes.ofText found)) ∧
      ∀ c, (((Command.format path true).run files settings c).result = .ok () ↔
          IsCanonical found) ∧
        (¬ IsCanonical found →
          ((Command.format path true).run files settings c).result =
            .error (.notCanonical path))) ∧
    (CommandError.notCanonical path).exitCode = 6 ∧
    ∃ printed, IsCanonical printed ∧
      (∀ c, c.isHuman = true →
        (Command.format path false).run files settings c = ⟨printed, .ok ()⟩) ∧
      ∀ files' path', files'.find path' = .ok (.file (Bytes.ofText printed)) →
        settings.loadSchema files' path' = .ok s ∧
        ∀ c, c.isHuman = true →
          (Command.format path' false).run files' settings c = ⟨printed, .ok ()⟩ := by
  obtain ⟨registry, hregistry, hschema⟩ := Settings.loadSchema_eq_ok_iff.mp hload
  obtain ⟨content, hfind, hbytes⟩ := loadSchema_eq_ok_iff.mp hschema
  obtain ⟨found, rfl⟩ := exists_text_of_readBytes hbytes
  have hread : read registry found = .ok s.root := by rw [read_eq_readBytes, hbytes]
  have hexpressible := isExpressible_of_outlines (readAll_eq_ok_iff.mp hread)
  have hfound := Files.readText_of_find hfind
  refine ⟨⟨found, hfind, fun c => ?_⟩, rfl, write s.root, isCanonical_write hexpressible,
    fun c hc => Command.run_format hload hfound hc, fun files' path' hfind' => ?_⟩
  · have hverdict := write_eq_iff_isCanonical hread
    rw [Command.result_format_verdict hload hfound]
    by_cases h : write s.root = found
    · simp [h, hverdict.mp h]
    · simp [h, mt hverdict.mpr h]
  · -- What is written for a tree is read as this tree, with the same registry.
    have hread' : readBytes registry (Bytes.ofText (write s.root)) = .ok s.root := by
      rw [← read_eq_readBytes]
      exact readAll_eq_ok_iff.mpr (outlines_write hexpressible)
    have hload' : settings.loadSchema files' path' = .ok s :=
      Settings.loadSchema_eq_ok_iff.mpr
        ⟨registry, hregistry, loadSchema_eq_ok_iff.mpr ⟨_, hfind', hread'⟩⟩
    exact ⟨hload', fun c hc => Command.run_format hload' (Files.readText_of_find hfind') hc⟩

open Notation in
/-- A field that is declared twice is declared once in the canonical text. -/
theorem format_drops_repeated_field :
    ∃ (files : Files) (s : Schema), ({} : Settings).loadSchema files "a.jsons" = .ok s ∧
      ¬ IsCanonical "a:Object\n\tb:Int\na:Int\n" ∧ IsCanonical "a:Int\n" := by
  let files := Files.ofList [("a.jsons", .ok (.file (Bytes.ofText "a:Object\n\tb:Int\na:Int\n")))]
  have hload : ({} : Settings).loadSchema files "a.jsons" = .ok ⟨none, [("a", .leaf .int)]⟩ := rfl
  obtain ⟨⟨found, hfind, hverdict⟩, -, printed, hprinted, hrun, -⟩ :=
    format_prints_canonical_text hload
  have hfound : files.readText "a.jsons" = .ok "a:Object\n\tb:Int\na:Int\n" := rfl
  obtain rfl := Except.ok.inj (hfound.symm.trans (Files.readText_of_find hfind))
  have hrefused : ((Command.format "a.jsons" true).run files {} {}).result =
    .error (.notCanonical "a.jsons") := rfl
  refine ⟨files, _, hload, fun h => ?_, ?_⟩
  · have haccepted := (hverdict {}).1.mpr h
    rw [hrefused] at haccepted
    cases haccepted
  · have houtput : ((Command.format "a.jsons" false).run files {} {}).output = "a:Int\n" := rfl
    rw [hrun {} rfl] at houtput
    exact houtput ▸ hprinted

end DocSchema
