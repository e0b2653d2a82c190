import DocSchema.Document
import DocSchema.Report.Style
import DocSchema.Settings.Load

/-!
# Why a command fails

A failed command has an exit code and a message. Where the message ends in a part that is worded
elsewhere, that part is left open.
-/
namespace DocSchema

/-- Why a command fails. -/
inductive CommandError where
  | unreadable (cause : FileError)
  | load (cause : LoadError)
  | missing (path : String)
  | invalidDocuments (failed checked : Nat)
  | notCanonical (path : String)
  | settings (fault : Settings.Fault)
  /-- The settings file at a place that is always looked at has a fault. -/
  | settingsAt (path : String) (fault : Settings.FileFault)
  | malformed (format : SettingsFormat)
deriving DecidableEq, Repr

namespace CommandError

/-- A fault of a settings file that was named. -/
def ofFileFault : Settings.FileFault → CommandError
  | .unreadable cause => unreadable cause
  | .malformed format => malformed format

/-- The exit code of the program. -/
def exitCode : CommandError → Nat
  | unreadable _ => 1
  | invalidDocuments .. => 2
  | missing _ => 3
  | load (.schema ..) => 4
  | load _ => 5
  | notCanonical _ => 6
  | settings _ | settingsAt .. => 7
  | malformed .json => 12
  | malformed .yaml => 13
  | malformed .toml => 14

/-- What starts a message about settings. -/
def settingsText (message : String) : String := "Configuration error: " ++ message

/-- The error in words. -/
def message : CommandError → String
  | unreadable cause => (Settings.FileFault.unreadable cause).message
  | load cause => cause.message
  | missing path => s!"File not found: {path}"
  | invalidDocuments failed checked => s!"{failed} of {checked} document(s) failed validation"
  | notCanonical path => s!"{path} is not in canonical form"
  | settings fault => settingsText fault.message
  | settingsAt path fault => settingsText s!"failed to load {path}: {fault.message}"
  | malformed format => (Settings.FileFault.malformed format).message

/-- The message leaves its last part open. -/
def isOpen : CommandError → Bool
  | load (.yaml _) | load (.schema _ (.invalidPattern ..)) => true
  | settings (.pattern _) | settingsAt _ (.malformed _) | malformed _ => true
  | _ => false

/-- The error as it is shown. -/
def shown (e : CommandError) (color : Bool) : String :=
  let mark := if color then String.ofList (Style.boldRed.paint "Error:".toList) else "Error:"
  mark ++ " " ++ e.message

end CommandError
end DocSchema
