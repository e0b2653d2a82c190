import DocSchema.Registry
import DocSchema.Report.Format

/-!
# Settings of the program

How the program reports, what it logs, and the types that patterns define. Every setting has a
default.
-/
namespace DocSchema

/-- How the program reports. -/
structure OutputSettings where
  /-- The name of a report format. -/
  format : String := "human"
  color : Bool := true
  /-- Show progress on a terminal. -/
  progress : Bool := true
deriving DecidableEq, Repr, Inhabited

/-- What the program logs. -/
structure LogSettings where
  /-- The filter of log records that counts where the arguments do not raise it. -/
  level : Option String := none
  /-- The name of a log format. -/
  format : String := "compact"
  /-- The file to which the log is added. -/
  file : Option String := none
deriving DecidableEq, Repr, Inhabited

/-- All settings. -/
structure Settings where
  output : OutputSettings := {}
  logging : LogSettings := {}
  /-- The pattern of each further type, sorted by the name of the type. -/
  types : List (String × String) := []
deriving DecidableEq, Repr, Inhabited

/-- The notations of settings files. -/
inductive SettingsFormat where
  | json | yaml | toml
deriving DecidableEq, Repr

/-- What settings texts of a notation are called. -/
def SettingsFormat.label : SettingsFormat → String
  | json => "JSON"
  | yaml => "YAML"
  | toml => "TOML"

namespace Settings

/-- What is wrong with a setting. -/
inductive Fault where
  /-- The pattern of a type is no regular expression. -/
  | pattern (type : String)
  /-- The name of a type cannot be used. -/
  | reserved (type : String)
  /-- No report format has the name. -/
  | format (name : String)
deriving DecidableEq, Repr

/-- The fault in words. What is wrong with a pattern is left open. -/
def Fault.message : Fault → String
  | pattern type => s!"type '{type}' has an invalid pattern: "
  | reserved type => s!"type name '{type}' is reserved"
  | format name => s!"unknown output format '{name}'"

/-- Registers one type that a pattern defines. -/
def addType (r : Registry) (type : String × String) : Except Fault Registry :=
  match r.registerPattern? type.1 type.2 with
  | none => .error (.pattern type.1)
  | some (true, r) => .ok r
  | some (false, _) => .error (.reserved type.1)

/-- The registry of all types that patterns define. -/
def registry (s : Settings) : Except Fault Registry := s.types.foldlM addType Registry.empty

/-- The report format, whose name may be in any case. -/
def reportFormat (s : Settings) : Except Fault ReportFormat :=
  match ReportFormat.ofLabel? s.output.format.toLower with
  | some format => .ok format
  | none => .error (.format s.output.format)

end Settings
end DocSchema
