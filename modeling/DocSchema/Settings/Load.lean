import DocSchema.Files
import DocSchema.Settings.Reader

/-!
# Loading settings

Settings come from a file that is named, or from the first of several places that exists. The
notation of a file follows from its extension.
-/
namespace DocSchema

/-- The notation of a settings file. Extensions count as they are written, and JSON is the rest. -/
def SettingsFormat.ofPath (path : String) : SettingsFormat :=
  match Path.extension? path with
  | some "yaml" | some "yml" => yaml
  | some "toml" => toml
  | _ => json

namespace Settings

/-- Why a settings file cannot be loaded. -/
inductive FileFault where
  | unreadable (cause : FileError)
  | malformed (format : SettingsFormat)
deriving DecidableEq, Repr

/-- The fault in words. What is wrong with a text is left open. -/
def FileFault.message : FileFault → String
  | unreadable cause => s!"IO error: {cause.message}"
  | malformed format => s!"{format.label} error: "

/-- The settings of the file at a path. -/
def readFile (files : Files) (path : String) : Except FileFault Settings :=
  match files.readText path with
  | .error e => .error (.unreadable e)
  | .ok text =>
    match ofText? (SettingsFormat.ofPath path) text with
    | some settings => .ok settings
    | none => .error (.malformed (SettingsFormat.ofPath path))

/-! ## Places -/

/-- The extensions of settings files, in the order in which they are looked for. -/
def extensions : List String := ["yaml", "json", "toml"]

/-- The settings directory of a user. Only a path from the root can replace the one below the home
directory. -/
def directory? (configHome home : Option String) : Option String :=
  match configHome with
  | some path =>
    if path.toList.head? = some '/' then some path else home.map (Path.join · ".config")
  | none => home.map (Path.join · ".config")

/-- The places of settings files: the current directory, the settings directory of the user, and the
home directory. -/
def places (configHome home : Option String) : List String :=
  extensions.map (".jsonv." ++ ·) ++
    (directory? configHome home).toList.flatMap
      (fun d => extensions.map fun e => Path.join d ("jsonv/config." ++ e)) ++
    home.toList.flatMap fun d => extensions.map fun e => Path.join d (".jsonv." ++ e)

/-- The settings of the first place that exists, or the defaults; a fault comes with its place. -/
def search (files : Files) (places : List String) : Except (String × FileFault) Settings :=
  match places.find? files.has with
  | none => .ok {}
  | some path =>
    match readFile files path with
    | .ok settings => .ok settings
    | .error fault => .error (path, fault)

end Settings
end DocSchema
