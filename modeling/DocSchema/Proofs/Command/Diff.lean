import DocSchema.Proofs.Command.Format
import DocSchema.Proofs.Diff.Unified
import DocSchema.Proofs.Report.Style

/-!
# The diff of the format command in colours

Without colours, the format command writes the diff as it is.  With colours it divides the diff into
lines and writes each in its style, so the diff loses its carriage returns before line feeds.
What is written is otherwise the same, with escape sequences in it (`colored_diff_drops_returns`).
Files with such line ends load like any other, and each of their lines is in the diff.
-/
namespace DocSchema

namespace Notation

/-- A text that is read as a schema does not end with a carriage return. -/
theorem getLast?_ne_return_of_read {r : Registry} {found : String} {o : ObjectValidator}
    (h : read r found = .ok o) : found.toList.getLast? ≠ some '\r' := by
  intro hreturn
  obtain ⟨line, hline, hlast⟩ := exists_line_of_getLast? hreturn
  obtain ⟨es, hstated, -, -⟩ := readAll_eq_ok_iff.mp h
  obtain ⟨e, text, token, htext, hspells, -⟩ :=
    exists_statedBy_of_mem hstated (List.mem_map_of_mem hline)
  obtain rfl := Option.some.inj htext
  obtain ⟨c, hc, hblank⟩ := hspells.exists_getLast?
  rw [hlast] at hc
  obtain rfl := Option.some.inj hc
  exact absurd hblank (by decide)

/-- The lines of a canonical text end with line feeds alone. -/
theorem IsCanonical.lineEnds {found : String} (h : IsCanonical found) :
    '\r' ∉ found.toList ∧ ∀ c, found.toList.getLast? = some c → c = '\n' := by
  obtain ⟨ls, hfound, hvalid, -⟩ := h
  rw [hfound, ← text_eq_flatMap]
  clear hfound
  induction ls with
  | nil => simp
  | cons l ls ih =>
    rw [List.forall_mem_cons] at hvalid
    obtain ⟨hreturn, hlast⟩ := ih hvalid.2
    rw [text_cons]
    constructor
    · have hline : '\r' ∉ l.write :=
        Line.not_mem_write hvalid.1.1 hvalid.1.2 (by decide) (by decide)
      simp [hline, hreturn]
    · intro c hc
      rw [List.getLast?_append, List.getLast?_cons, Option.some_or] at hc
      cases hrest : (text ls).getLast? with
      | none =>
        rw [hrest] at hc
        exact (Option.some.inj hc).symm
      | some d =>
        rw [hrest] at hc
        obtain rfl := Option.some.inj hc
        exact hlast d hrest

end Notation

/-- The lines that name the texts are about one file. -/
theorem Diff.hasReturn_fileHeads_iff {path : String} :
    HasReturn (Diff.fileHeads path (path ++ " (canonical)")) ↔
      HasReturn (path.toList ++ ['\n']) := by
  have hheads : Diff.fileHeads path (path ++ " (canonical)") =
      "--- ".toList ++ ((path.toList ++ ['\n']) ++
        ("+++ ".toList ++ (path.toList ++ " (canonical)\n".toList))) := by
    simp [Diff.fileHeads]
  have hsecond : HasReturn ("+++ ".toList ++ (path.toList ++ " (canonical)\n".toList)) ↔
      HasReturn path.toList := by
    have hmark : ¬ HasReturn " (canonical)\n".toList := not_hasReturn_of_not_mem (by decide)
    rw [hasReturn_append_of_not_mem (by decide), hasReturn_append_iff]
    constructor
    · rintro (h | h | ⟨-, hhead⟩)
      · exact h
      · exact absurd h hmark
      · cases hhead
    · intro h
      exact .inl h
  rw [hheads, hasReturn_append_of_not_mem (by decide), hasReturn_append_iff, hsecond]
  constructor
  · rintro (h | h | ⟨-, hhead⟩)
    · exact h
    · exact h.of_infix (List.prefix_append _ _).isInfix
    · cases hhead
  · intro h
    exact .inl h

/-- The format command writes a diff, in colours if the console has them. -/
theorem Command.run_format_diff {settings : Settings} {files : Files} {path found : String}
    {s : Schema} (hload : settings.loadSchema files path = .ok s)
    (hfound : files.readText path = .ok found) (hne : found ≠ Notation.write s.root) {c : Console}
    (hc : c.isHuman = true) (color : Bool) :
    (format path true).run files settings { c with color } =
      ⟨String.ofList (if color then
          Diff.colored (CanonicalReport.mk path found (Notation.write s.root)).diff
        else (CanonicalReport.mk path found (Notation.write s.root)).diff),
        .error (.notCanonical path)⟩ := by
  have hhuman : (Console.mk c.format color c.quiet).isHuman = true := hc
  rw [run, report_format hload hfound]
  simp [Report.shown, Report.writes, Report.verdict, CanonicalReport.text,
    CanonicalReport.verdictText, CanonicalReport.isCanonical, hhuman, hne]

open Notation in
/-- The diff between a text and the canonical one that is written for it. -/
theorem diff_of_read (path : String) {r : Registry} {found : String} {o : ObjectValidator}
    (hread : read r found = .ok o) (hne : found ≠ write o) :
    (∀ c, (CanonicalReport.mk path found (write o)).diff.getLast? = some c → c = '\n') ∧
      (HasReturn (CanonicalReport.mk path found (write o)).diff ↔
        HasReturn (path.toList ++ ['\n']) ∨ HasReturn found.toList) := by
  have hexpressible := isExpressible_of_outlines (readAll_eq_ok_iff.mp hread)
  obtain ⟨hreturn, hends⟩ := (isCanonical_write hexpressible).lineEnds
  have htexts : found.toList ≠ (write o).toList := fun heq => hne (String.toList_injective heq)
  rw [CanonicalReport.diff]
  constructor
  · intro c hc
    rw [Diff.getLast?_unified htexts (getLast?_ne_return_of_read hread)
      (Diff.getLast?_of_mem_linesOf hreturn hends)] at hc
    exact (Option.some.inj hc).symm
  · rw [Diff.hasReturn_unified_iff htexts hreturn, Diff.hasReturn_fileHeads_iff]

open Notation in
/-- **A diff in colours has lost carriage returns.**  For a schema file that loads and is not
canonical, the output in colours is the one without colours, without its carriage returns before
line feeds and with escape sequences.  So it has nothing but escape sequences more exactly if
neither the path nor the file has such a carriage return. -/
theorem colored_diff_drops_returns {settings : Settings} {files : Files} {path : String}
    {s : Schema} (hload : settings.loadSchema files path = .ok s) :
    ∃ found, files.find path = .ok (.file (Bytes.ofText found)) ∧
      (¬ IsCanonical found → ∀ c : Console, c.isHuman = true →
        ∃ plain colored : List Char,
          (Command.format path true).run files settings { c with color := false } =
            ⟨String.ofList plain, .error (.notCanonical path)⟩ ∧
          (Command.format path true).run files settings { c with color := true } =
            ⟨String.ofList colored, .error (.notCanonical path)⟩ ∧
          IsStyled (dropReturns plain) colored ∧
          (IsStyled plain colored ↔
            ¬ HasReturn (path.toList ++ ['\n']) ∧ ¬ HasReturn found.toList) ∧
          ('\x1b' ∉ plain → stripCodes colored = dropReturns plain ∧
            (stripCodes colored = plain ↔
              ¬ HasReturn (path.toList ++ ['\n']) ∧ ¬ HasReturn found.toList))) := by
  obtain ⟨registry, -, hschema⟩ := Settings.loadSchema_eq_ok_iff.mp hload
  obtain ⟨content, hfind, hbytes⟩ := loadSchema_eq_ok_iff.mp hschema
  obtain ⟨found, rfl⟩ := exists_text_of_readBytes hbytes
  have hread : read registry found = .ok s.root := by rw [read_eq_readBytes, hbytes]
  refine ⟨found, hfind, fun hnot c hc => ?_⟩
  have hne : found ≠ write s.root := by
    intro heq
    exact hnot ((write_eq_iff_isCanonical hread).mp heq.symm)
  have hrun := Command.run_format_diff hload (Files.readText_of_find hfind) hne hc
  obtain ⟨hlast, hreturns⟩ := diff_of_read path hread hne
  generalize (CanonicalReport.mk path found (write s.root)).diff = plain at hrun hlast hreturns
  rw [← not_or, ← hreturns]
  refine ⟨plain, Diff.colored plain, hrun false, hrun true, Diff.isStyled_colored hlast,
    Diff.isStyled_colored_iff hlast, fun hescape => ⟨Diff.stripCodes_colored hlast hescape, ?_⟩⟩
  rw [Diff.stripCodes_colored hlast hescape, dropReturns_eq_self_iff]

/-- A file of one line that ends with a carriage return and a line feed. -/
def returnFile : Files := Files.ofList [("a.jsons", .ok (.file (Bytes.ofText "a:Int\r\n")))]

open Notation in
/-- Such a line is written without its carriage return in colours. -/
theorem colored_diff_drops_return_of_line :
    ∃ (s : Schema) (plain colored : List Char),
      ({} : Settings).loadSchema returnFile "a.jsons" = .ok s ∧
      ¬ IsCanonical "a:Int\r\n" ∧
      (Command.format "a.jsons" true).run returnFile {} {} =
        ⟨String.ofList plain, .error (.notCanonical "a.jsons")⟩ ∧
      (Command.format "a.jsons" true).run returnFile {} { color := true } =
        ⟨String.ofList colored, .error (.notCanonical "a.jsons")⟩ ∧
      IsStyled (dropReturns plain) colored ∧ ¬ IsStyled plain colored := by
  have hload : ({} : Settings).loadSchema returnFile "a.jsons" =
      .ok ⟨none, [("a", .leaf .int)]⟩ := rfl
  obtain ⟨found, hfind, hdiff⟩ := colored_diff_drops_returns hload
  have hfound : returnFile.readText "a.jsons" = .ok "a:Int\r\n" := rfl
  obtain rfl := Except.ok.inj (hfound.symm.trans (Files.readText_of_find hfind))
  have hnot : ¬ IsCanonical "a:Int\r\n" := by
    intro h
    exact h.lineEnds.1 (by decide)
  obtain ⟨plain, colored, hplain, hcolored, hstyled, hsame, -⟩ := hdiff hnot {} rfl
  refine ⟨_, plain, colored, hload, hnot, hplain, hcolored, hstyled, ?_⟩
  rw [hsame]
  intro hnone
  exact hnone.2 ⟨['a', ':', 'I', 'n', 't'], [], by decide⟩

/-- **Colours do more than add escape sequences.**  With these removed, the output for the file
is not the one without colours, which has a carriage return. -/
theorem stripped_diff_ne_plain_diff :
    ({} : Settings).loadSchema returnFile "a.jsons" = .ok ⟨none, [("a", .leaf .int)]⟩ ∧
      ((Command.format "a.jsons" true).run returnFile {} {}).result =
        .error (.notCanonical "a.jsons") ∧
      ((Command.format "a.jsons" true).run returnFile {} {}).output =
        "--- a.jsons\n+++ a.jsons (canonical)\n@@ -1 +1 @@\n-a:Int\r\n+a:Int\n" ∧
      stripCodes
          ((Command.format "a.jsons" true).run returnFile {} { color := true }).output.toList =
        "--- a.jsons\n+++ a.jsons (canonical)\n@@ -1 +1 @@\n-a:Int\n+a:Int\n".toList ∧
      stripCodes
          ((Command.format "a.jsons" true).run returnFile {} { color := true }).output.toList ≠
        ((Command.format "a.jsons" true).run returnFile {} {}).output.toList := by
  have hplain : ((Command.format "a.jsons" true).run returnFile {} {}).output =
      "--- a.jsons\n+++ a.jsons (canonical)\n@@ -1 +1 @@\n-a:Int\r\n+a:Int\n" := by decide +kernel
  have hstripped : stripCodes
      ((Command.format "a.jsons" true).run returnFile {} { color := true }).output.toList =
        "--- a.jsons\n+++ a.jsons (canonical)\n@@ -1 +1 @@\n-a:Int\n+a:Int\n".toList := by
    decide +kernel
  refine ⟨rfl, rfl, hplain, hstripped, ?_⟩
  rw [hstripped, hplain]
  decide

end DocSchema
