import DocSchema.Json.Printer
import DocSchema.Yaml.Printer

/-!
# The formats of reports

One format is for people and three are for programs. A value has a text in each of them.
-/
namespace DocSchema

/-- The format of a report. -/
inductive ReportFormat where
  | human | json | yaml | jsonPretty
deriving DecidableEq, Repr

namespace ReportFormat

/-- All formats. -/
def all : List ReportFormat := [human, json, yaml, jsonPretty]

/-- The name of a format in arguments and settings. -/
def label : ReportFormat → String
  | human => "human"
  | json => "json"
  | yaml => "yaml"
  | jsonPretty => "json-pretty"

/-- The format of a name. -/
def ofLabel? (name : String) : Option ReportFormat := all.find? (·.label = name)

/-- The text of a value; people get it as JSON over several lines. -/
def render : ReportFormat → Json → String
  | json, v => v.toCompact
  | yaml, v => Yaml.toText v
  | human, v | jsonPretty, v => v.toPretty

end ReportFormat
end DocSchema
