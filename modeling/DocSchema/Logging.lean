import DocSchema.Files
import DocSchema.Logging.Filter
import DocSchema.Settings

/-!
# What is logged, how and where

The arguments say how much, settings fill in what the arguments leave open, and variables of the
environment overrule both.
-/
namespace DocSchema

/-- The form of log records. -/
inductive LogFormat where
  | compact | full | json
deriving DecidableEq, Repr

/-- The format of a name in any case. -/
def LogFormat.ofLabel? (name : String) : Option LogFormat :=
  match name.toLower with
  | "compact" => some compact
  | "full" => some full
  | "json" => some json
  | _ => none

/-- What is logged, how and where. -/
structure Logging where
  /-- The filter of records. -/
  level : String := "warn"
  format : LogFormat := .compact
  /-- The file to which the log is added; without one it goes to the error output. -/
  file : Option String := none
  threadIds : Bool := false
  sourceLocation : Bool := false
deriving DecidableEq, Repr

/-- The variables of the environment that the program reads. -/
structure Environment where
  settings : Option String := none
  logLevel : Option String := none
  logFormat : Option String := none
  logFile : Option String := none
  configHome : Option String := none
  home : Option String := none

/-- The names of those variables. -/
def Environment.names : List String :=
  ["JSONV_CONFIG", "RUST_LOG", "JSONV_LOG_FORMAT", "JSONV_LOG_FILE", "XDG_CONFIG_HOME", "HOME"]

/-- The environment that a look-up of variables shows. -/
def Environment.ofLookup (look : String → Option String) : Environment where
  settings := look "JSONV_CONFIG"
  logLevel := look "RUST_LOG"
  logFormat := look "JSONV_LOG_FORMAT"
  logFile := look "JSONV_LOG_FILE"
  configHome := look "XDG_CONFIG_HOME"
  home := look "HOME"

namespace Logging

/-- What a number of requests for more is worth. -/
def ofVerbosity : Nat → Logging
  | 0 => {}
  | 1 => { level := "info" }
  | 2 => { level := "debug", sourceLocation := true }
  | _ => { level := "trace", format := .full, sourceLocation := true, threadIds := true }

/-- Fills in settings: the level if nothing more was asked for, and the format unless all was. -/
def ofSettings (verbosity : Nat) (s : LogSettings) : Logging :=
  let l := ofVerbosity verbosity
  { l with
    level := if verbosity = 0 then s.level.getD l.level else l.level
    format := if verbosity < 3 then (LogFormat.ofLabel? s.format).getD l.format else l.format
    file := s.file }

/-- Lets variables of the environment overrule; a format without meaning changes nothing. -/
def withEnvironment (l : Logging) (e : Environment) : Logging :=
  { l with
    level := e.logLevel.getD l.level
    format := (e.logFormat.bind LogFormat.ofLabel?).getD l.format
    file := e.logFile <|> l.file }

/-! ## Starting the log -/

/-- Why a log cannot be started. -/
inductive Fault where
  | filter (level : String) (cause : LogFilter.Fault)
  /-- The path names no file. -/
  | path (path : String)
  /-- The directory of the file cannot be made. -/
  | directory (path : String) (cause : FileError)
  | file (path : String) (cause : FileError)
deriving DecidableEq, Repr

/-- The fault in words. -/
def Fault.message : Fault → String
  | filter level cause => s!"Invalid log level '{level}': {cause.message}"
  | path p => s!"invalid log file path: {p}"
  | directory p cause =>
    s!"cannot open log file {p}: failed to create log directory: {cause.message}"
  | file p cause => s!"cannot open log file {p}: failed to create initial log file: {cause.message}"

/-- The message leaves its last part open. -/
def Fault.isOpen : Fault → Bool
  | filter _ cause => cause.isOpen
  | _ => false

/-- The fault of a directory that is to be made; one that exists is none. -/
def directoryFault? (files : Files) (directory : String) : Option FileError :=
  if directory = "" then none
  else match files.find directory with
    | .ok .directory | .error .notFound => none
    | .ok (.file _) => some .alreadyExists
    | .error e => some e

/-- The place of a log file: its directory and its whole path; none if the path names no file. -/
def place? (path : String) : Option (String × String) :=
  (Path.fileName? path).map fun name =>
    let directory := Path.parent path
    (directory, Path.join directory name)

/-- The fault of opening a log file; missing directories on the way are made. -/
def fileFault? (files : Files) (path : String) : Option Fault :=
  match place? path with
  | none => some (.path path)
  | some (directory, place) =>
    match files.find place with
    | .ok (.file _) => none
    | .ok .directory => some (.file path .isDirectory)
    | .error _ => (directoryFault? files directory).map (.directory path)

/-- Why the log cannot be started, if so. -/
def fault? (l : Logging) (files : Files) : Option Fault :=
  match LogFilter.fault? l.level with
  | some cause => some (.filter l.level cause)
  | none => l.file.bind (fileFault? files)

end Logging
end DocSchema
