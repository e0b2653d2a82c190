import DocSchema.Settings

/-!
# Taking settings from a value of any notation

A notation says how its values are taken as records, as texts and as truth values; the shape of
settings is stated once for all of them.
-/
namespace DocSchema.Settings

/-- The parts of a value: members with names, or items in order. -/
inductive Parts (σ : Type) where
  | named (members : List (String × σ))
  | ordered (items : List σ)

/-- How settings are taken from the values of a notation. -/
structure Source (σ : Type) where
  /-- The parts of a value. -/
  parts? : σ → Option (Parts σ)
  /-- The text that a value is. -/
  text? : σ → Option String
  /-- The truth value that a value is. -/
  flag? : σ → Option Bool
  /-- A value that may be absent. -/
  optional? : σ → Option (Option σ)
  /-- A record may have more items than fields. -/
  surplus : Bool := false

namespace Source
variable {σ α : Type} (S : Source σ)

/-- The fields of a record. Members with other names mean nothing, no field occurs twice, and
any may be missing; items stand for the first fields in order. -/
def fields? (names : List String) (v : σ) : Option (List (String × σ)) :=
  match S.parts? v with
  | none => none
  | some (.ordered items) =>
    if items.length ≤ names.length ∨ S.surplus then some (names.zip items) else none
  | some (.named members) =>
    if names.all fun name => (members.filter (·.1 = name)).length ≤ 1 then
      some (members.filter fun m => names.contains m.1)
    else none

/-- The value of a field, or the default if the field is missing. -/
def field? (fields : List (String × σ)) (read : σ → Option α) (name : String) (default : α) :
    Option α :=
  match Keyed.get? fields name with
  | none => some default
  | some v => read v

/-- A text that may be absent. -/
def optionalText? (v : σ) : Option (Option String) :=
  match S.optional? v with
  | none => none
  | some none => some none
  | some (some w) => (S.text? w).map some

/-- Texts under names, sorted; of two under one name the later one counts. -/
def texts? (v : σ) : Option (List (String × String)) :=
  match S.parts? v with
  | some (.named members) =>
    (members.mapM fun (m : String × σ) => (S.text? m.2).map fun text => (m.1, text)).map Keyed.sort
  | _ => none

/-- The settings of how to report. -/
def output? (v : σ) : Option OutputSettings := do
  let fields ← S.fields? ["format", "color", "progress"] v
  let format ← field? fields S.text? "format" "human"
  let color ← field? fields S.flag? "color" true
  let progress ← field? fields S.flag? "progress" true
  return { format, color, progress }

/-- The settings of what to log. -/
def logging? (v : σ) : Option LogSettings := do
  let fields ← S.fields? ["level", "format", "file"] v
  let level ← field? fields S.optionalText? "level" none
  let format ← field? fields S.text? "format" "compact"
  let file ← field? fields S.optionalText? "file" none
  return { level, format, file }

/-- All settings. -/
def settings? (v : σ) : Option Settings := do
  let fields ← S.fields? ["output", "logging", "types"] v
  let output ← field? fields S.output? "output" {}
  let logging ← field? fields S.logging? "logging" {}
  let types ← field? fields S.texts? "types" []
  return { output, logging, types }

end Source
end DocSchema.Settings
