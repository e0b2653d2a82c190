import DocSchema.Command.Error
import DocSchema.Notation.Writer
import DocSchema.Report.Canonical
import DocSchema.Report.Declarations
import DocSchema.Report.Validation

/-!
# Commands

Each command loads a schema with the types that settings define, makes a report, and shows it in
the format of the console. What comes of a command depends on the report alone.
-/
namespace DocSchema

/-- A command on a schema file. -/
inductive Command where
  /-- Validate documents. -/
  | validate (schema : String) (documents : List String) (rule : StopRule)
  /-- List the declared fields. -/
  | check (schema : String)
  /-- Write the canonical form, or only compare with it. -/
  | format (schema : String) (onlyVerdict : Bool)
deriving DecidableEq, Repr

/-- A report of a command. -/
inductive Report where
  | validation (r : ValidationReport)
  | declarations (r : SchemaReport)
  | canonical (r : CanonicalReport) (onlyVerdict : Bool)
deriving DecidableEq, Repr

namespace Report

/-- The report for programs. -/
def toJson : Report → Json
  | validation r => r.toJson
  | declarations r => r.toJson
  | canonical r _ => r.toJson

/-- What a command writes on its report, one call after the other. The remark at the start of a
validation is made in every format. -/
def writes (c : Console) : Report → List String
  | validation r =>
    c.info s!"Validating against schema: {r.schema}" ::
      if c.isHuman then r.writes c else [c.data r.toJson]
  | declarations r => if c.isHuman then r.writes c else [c.data r.toJson]
  | canonical r onlyVerdict => [if c.isHuman then r.text onlyVerdict c else c.data r.toJson]

/-- The report as a console shows it. -/
def shown (r : Report) (c : Console) : String := String.join (r.writes c)

/-- What comes of the command: it fails if a document does not conform, or if a schema that is only
compared is not canonical. -/
def verdict : Report → Except CommandError Unit
  | validation r => if 0 < r.failed then .error (.invalidDocuments r.failed r.checked) else .ok ()
  | declarations _ => .ok ()
  | canonical r onlyVerdict =>
    if onlyVerdict && !r.isCanonical then .error (.notCanonical r.schema) else .ok ()

end Report

/-- The schema at a path, with the types that settings define. -/
def Settings.loadSchema (s : Settings) (files : Files) (path : String) :
    Except CommandError Schema :=
  if files.has path then
    match s.registry with
    | .error fault => .error (.settings fault)
    | .ok registry =>
      match DocSchema.loadSchema registry files path with
      | .ok schema => .ok schema
      | .error e => .error (.load e)
  else .error (.missing path)

/-- What a command wrote and what came of it. -/
structure Outcome where
  output : String
  result : Except CommandError Unit

namespace Command

/-- The schema file of a command. -/
def schema : Command → String
  | validate schema _ _ | check schema | format schema _ => schema

/-- The report of a command on a schema that is loaded. -/
def reportOn (files : Files) (settings : Settings) (s : Schema) :
    Command → Except CommandError Report
  | validate path documents rule =>
    .ok (.validation (ValidationReport.ofPaths path (s.inspect files) rule documents))
  | check path =>
    .ok (.declarations
      { schema := path
        fields := Declaration.ofSchema s
        customTypes := Keyed.keys settings.types })
  | format path onlyVerdict =>
    match files.readText path with
    | .error e => .error (.unreadable e)
    | .ok found =>
      .ok (.canonical { schema := path, found, formatted := Notation.write s.root } onlyVerdict)

/-- The report of a command. -/
def report (files : Files) (settings : Settings) (command : Command) : Except CommandError Report :=
  match settings.loadSchema files command.schema with
  | .error e => .error e
  | .ok s => command.reportOn files settings s

/-- Runs a command. Without a report nothing is written. -/
def run (files : Files) (settings : Settings) (console : Console) (command : Command) : Outcome :=
  match command.report files settings with
  | .error e => ⟨"", .error e⟩
  | .ok r => ⟨r.shown console, r.verdict⟩

end Command
end DocSchema
