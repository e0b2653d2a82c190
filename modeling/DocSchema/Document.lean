import DocSchema.Files
import DocSchema.Json.Reader
import DocSchema.Notation.Reader
import DocSchema.Schema
import DocSchema.Yaml.Value

/-!
# Loading documents and schemas

The notation of a document follows from the extension of its path; a schema may have any path.
-/
namespace DocSchema

/-- The notations of documents. -/
inductive DocumentFormat where
  | yaml
  | json
deriving DecidableEq, Repr

namespace DocumentFormat

/-- The extensions of a notation. -/
def extensions : DocumentFormat → List String
  | yaml => ["yaml", "yml"]
  | json => ["json"]

/-- The notation of a path, by its extension in any case. -/
def ofPath? (path : String) : Option DocumentFormat := do
  let extension := (← Path.extension? path).toLower
  [yaml, json].find? fun format => format.extensions.contains extension

end DocumentFormat

/-- Why a text is no JSON document. -/
inductive JsonError where
  | text (e : Json.TextError)
  /-- A YAML document has a key that cannot be a member name. -/
  | key (fault : Yaml.KeyFault)
deriving DecidableEq, Repr

/-- The cause in words. -/
def JsonError.message : JsonError → String
  | text e => e.message
  | key fault => fault.message

/-- Why a file cannot be loaded. -/
inductive LoadError where
  | unreadable (path : String) (cause : FileError)
  | yaml (path : String)
  | json (path : String) (cause : JsonError)
  | unsupported (path : String)
  | schema (path : String) (cause : SchemaError)
deriving DecidableEq, Repr

namespace LoadError

/-- The path of the file. -/
def path : LoadError → String
  | unreadable p _ | yaml p | json p _ | unsupported p | schema p _ => p

/-- The error in words. What is wrong with a YAML text is left open. -/
def message : LoadError → String
  | unreadable p cause => s!"Failed to read file '{p}': {cause.message}"
  | yaml p => s!"Failed to parse YAML file '{p}': "
  | json p cause => s!"Failed to parse JSON file '{p}': {cause.message}"
  | unsupported p => s!"Unsupported file format for '{p}'. Expected .json, .yaml, or .yml"
  | schema p cause => s!"Invalid schema '{p}': {cause.message}"

/-- The error of a schema file. One whose bytes are no text cannot be read. -/
def ofSchema (path : String) : SchemaError → LoadError
  | .undecodable => unreadable path .undecodable
  | cause => schema path cause

end LoadError

/-- The value of a text in a notation; the path is named in errors. -/
def parseDocument (format : DocumentFormat) (path text : String) : Except LoadError Json :=
  match format with
  | .json =>
    match Json.ofText text with
    | .ok v => .ok v
    | .error e => .error (.json path (.text e))
  | .yaml =>
    match Yaml.ofText? text with
    | none => .error (.yaml path)
    | some v =>
      match v.toJson with
      | .ok j => .ok j
      | .error fault => .error (.json path (.key fault))

/-- The value of the document at a path. -/
def loadDocument (files : Files) (path : String) : Except LoadError Json :=
  match DocumentFormat.ofPath? path with
  | none => .error (.unsupported path)
  | some format =>
    match files.readText path with
    | .error e => .error (.unreadable path e)
    | .ok text => parseDocument format path text

/-- The schema at a path. -/
def loadSchema (registry : Registry) (files : Files) (path : String) : Except LoadError Schema :=
  match files.read path with
  | .error e => .error (.unreadable path e)
  | .ok content =>
    match Notation.readBytes registry content with
    | .ok root => .ok ⟨root⟩
    | .error e => .error (LoadError.ofSchema path e)

end DocSchema
