import DocSchema.Json.Shape
import DocSchema.Settings.Source
import DocSchema.Toml.Document
import DocSchema.Yaml.Value

/-!
# Settings texts in three notations

A notation decides what counts as a text or as a truth value: in YAML every scalar is a text, in
the other two only a string is.
-/
namespace DocSchema.Settings

/-! ## JSON -/

namespace Source
open Json.Reader Json.Shape

/-- The parts of a JSON text, each as the text that it is. -/
def jsonParts : Read (Parts (List Char)) := fun s =>
  match skipBlanks s with
  | '\x7b' :: s =>
    (record (fun key s => (raw s).map fun (v, rest) => ((key, v), rest)) s).map fun (ms, rest) =>
      (.named ms, rest)
  | '[' :: s => (list raw s).map fun (vs, rest) => (.ordered vs, rest)
  | s => mismatch s

/-- JSON texts as values. -/
def json : Source (List Char) where
  parts? := all? jsonParts
  text? := all? text
  flag? := all? flag
  optional? s :=
    match skipBlanks s with
    | 'n' :: _ => some none
    | _ => some (some s)

end Source

/-! ## YAML -/

namespace Source
open Yaml

/-- The node that an alias stands for. -/
def yamlTarget? (d : Document) : Node → Option Node
  | .alias number => (d.targets.find? (·.1 = number)).map Prod.snd
  | n => some n

/-- The text of a scalar. -/
def yamlText? (d : Document) (n : Node) : Option String :=
  match yamlTarget? d n with
  | some (.scalar _ text _) => some text
  | _ => none

/-- The parts of a node. An empty node is a collection without parts. -/
def yamlParts? (d : Document) (n : Node) : Option (Parts Node) :=
  match yamlTarget? d n with
  | some (.mapping _ pairs) =>
    (pairs.mapM fun (pair : Node × Node) =>
      (yamlText? d pair.1).map fun key => (key, pair.2)).map .named
  | some (.sequence _ items) => some (.ordered items)
  | some (.scalar _ text plain) => if plain ∧ text = "" then some (.named []) else none
  | _ => none

/-- The truth value of a plain scalar. -/
def yamlFlag? (d : Document) (n : Node) : Option Bool :=
  match yamlTarget? d n with
  | some (.scalar _ text true) => bool? text
  | _ => none

/-- A node that may be a null. A null by its tag has to look like one and cannot be empty. -/
def yamlOptional? (d : Document) (n : Node) : Option (Option Node) :=
  match yamlTarget? d n with
  | some (.scalar none text true) => some (if text = "" ∨ isNull text then none else some n)
  | some (.scalar (some tag) text true) =>
    if tag ≠ coreTag "null" then some (some n) else if isNull text then some none else none
  | some _ => some (some n)
  | none => none

/-- The nodes of a YAML document as values. -/
def yaml (d : Document) : Source Node where
  parts? := yamlParts? d
  text? := yamlText? d
  flag? := yamlFlag? d
  optional? := yamlOptional? d

end Source

/-! ## TOML -/

namespace Source
open Toml

/-- The name under which a moment has its text when it is taken as a table. -/
def momentName : String := "$__toml_private_datetime"

/-- The parts of a TOML value. -/
def tomlParts? : Value → Option (Parts Value)
  | .table entries => some (.named entries)
  | .array items => some (.ordered items)
  | .moment m => some (.named [(momentName, .text (String.ofList m.text))])
  | _ => none

/-- TOML values as values. -/
def toml : Source Value where
  parts? := tomlParts?
  text?
    | .text s => some s
    | _ => none
  flag?
    | .flag b => some b
    | _ => none
  optional? v := some (some v)
  surplus := true

end Source

/-- The settings of a text in a notation; none if the text has a fault or another shape. -/
def ofText? (format : SettingsFormat) (text : String) : Option Settings :=
  match format with
  | .json => Source.json.settings? text.toList
  | .yaml => (Yaml.document? text).bind fun d => (Source.yaml d).settings? (d.root.getD .empty)
  | .toml => (Toml.ofText? text).bind Source.toml.settings?

end DocSchema.Settings
