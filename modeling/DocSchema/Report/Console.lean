import DocSchema.Failure.Codec
import DocSchema.Report.Format
import DocSchema.Report.Style
import DocSchema.Report.Table

/-!
# What a console shows

Messages are for people, values and failures are shown in the format of the console. Every
function gives the text that it writes, so a console that hides a message writes the empty text.
-/
namespace DocSchema

/-- How a console shows what it is given. -/
structure Console where
  format : ReportFormat := .human
  color : Bool := false
  /-- Hide what is not essential. -/
  quiet : Bool := false
deriving DecidableEq, Repr

/-! ## Failures for people -/

/-- What a reason means to people. -/
def Reason.meaning : Reason → String
  | .rejected => "value rejected"
  | .missingField => "missing field"
  | .notAnArray => "not an array"
  | .hookRejected => "rejected by custom check"
  | .nested => "nested failure"

/-- A failure over several lines. -/
def Failure.report (f : Failure) : String :=
  let cause := match f.innermost with
    | none => ""
    | some e =>
      let found := match e.found with
        | none => ""
        | some kind => s!"  Found: {kind}\n"
      s!"  Reason: {e.reason.meaning}\n  Expected: {e.validator}\n" ++ found
  s!"  Path: {f.location}\n  Message: {f.describe}\n" ++ cause

/-- The failures of several documents over several lines. -/
def FailureList.report (l : FailureList) : String :=
  l.failures.foldl (fun text f => text ++ s!"\n[document {f.document}]\n" ++ f.failure.report)
    s!"{l.size} document(s) failed validation\n"

namespace Console

/-- A text as a line. -/
def line (text : String) : String := text ++ "\n"

/-- A text in a style, if the console has colours, and another text if it has not. -/
def styled (c : Console) (style : Style) (text plain : String) : String :=
  if c.color then String.ofList (style.paint text.toList) else plain

/-- The console is for people. -/
def isHuman (c : Console) : Bool := c.format = .human

/-- The console shows messages that are not essential. -/
def isTalkative (c : Console) : Bool := c.isHuman && !c.quiet

/-! ## Messages -/

/-- A remark. -/
def info (c : Console) (message : String) : String :=
  if c.isTalkative then line (c.styled .blue "ℹ" "INFO:" ++ " " ++ message) else ""

/-- Good news. -/
def success (c : Console) (message : String) : String :=
  if c.isTalkative then line (c.styled .green message message) else ""

/-- A warning, which is essential. -/
def warning (c : Console) (message : String) : String :=
  if c.isHuman then line (c.styled .yellow message s!"WARNING: {message}") else ""

/-- Bad news, which are essential. -/
def error (c : Console) (message : String) : String :=
  if c.isHuman then line (c.styled .red message s!"ERROR: {message}") else ""

/-- The head of a section, after an empty line. -/
def sectionHead (c : Console) (title : String) : String :=
  if c.isTalkative then
    line "" ++ line (c.styled .brightBlue s!"═══ {title} ═══" s!"=== {title} ===")
  else ""

/-- A table. -/
def table (c : Console) (t : Table) : String :=
  if c.isTalkative then
    line (c.styled .bold (String.ofList t.header) (String.ofList t.header)) ++
      String.join (t.body.map fun row => line (String.ofList row))
  else ""

/-! ## Values -/

/-- A text with a line feed at its end. -/
def ended (text : String) : String := if text.toList.getLast? = some '\n' then text else line text

/-- A text as one line feed after its last character that is no blank. -/
def trimmed (text : String) : String := line (String.ofList (trimEnd text.toList))

/-- A value. -/
def data (c : Console) (v : Json) : String := ended (c.format.render v)

/-- A failure. -/
def failure (c : Console) (f : Failure) : String :=
  trimmed (if c.isHuman then f.report else c.format.render f.toJson)

/-- The failures of several documents. -/
def failures (c : Console) (l : FailureList) : String :=
  trimmed (if c.isHuman then l.report else c.format.render l.toJson)

end Console
end DocSchema
