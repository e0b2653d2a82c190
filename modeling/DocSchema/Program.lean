import DocSchema.Arguments.Reader
import DocSchema.Logging

/-!
# The whole program

From its arguments, the variables of the environment and the files it sees to what it writes.
Settings come first, then the log, whose faults are only reported, then the command.
-/
namespace DocSchema

/-- A line of the error output. An open one ends in words that are left out. -/
structure Notice where
  text : String
  isOpen : Bool := false
deriving DecidableEq, Repr

/-- What a run of the program leaves. -/
structure RunResult where
  exitCode : Nat
  output : String := ""
  notices : List Notice := []
  /-- The log file that was opened. -/
  logFile : Option String := none

namespace Program

/-- The name of the program. -/
def name : String := "jsonv"

/-- The version of the program. -/
def version : String := "0.1.0"

/-- What is said about the version of the program or of a command. -/
def versionText (command : Option CommandName) : String :=
  let command := match command with
    | none => ""
    | some c => "-" ++ c.label
  s!"{name}{command} {version}\n"

/-- The settings that an invocation asks for, or those found where settings are looked for. -/
def settings (files : Files) (e : Environment) (path : Option String) :
    Except CommandError Settings :=
  match path with
  | some path =>
    if files.has path then
      match Settings.readFile files path with
      | .ok s => .ok s
      | .error fault => .error (CommandError.ofFileFault fault)
    else .error (.missing path)
  | none =>
    match Settings.search files (Settings.places e.configHome e.home) with
    | .ok s => .ok s
    | .error (path, fault) => .error (.settingsAt path fault)

/-- The paths at which the settings of an invocation may be. -/
def settingsPaths (e : Environment) (i : Invocation) : List String :=
  match i.settings with
  | some path => [path]
  | none => Settings.places e.configHome e.home

/-- What an invocation logs. A quiet one logs errors only. -/
def logging (e : Environment) (i : Invocation) (s : Settings) : Logging :=
  let l := (Logging.ofSettings i.loudness s.logging).withEnvironment e
  if i.quiet then { l with level := "error" } else l

/-- The paths that a task and its log lead to. -/
def taskPaths (task : Task) (l : Logging) : List String :=
  let work := match task with
    | .run (.validate schema documents _) => schema :: documents
    | .run (.check schema) | .run (.format schema _) => [schema]
    | .completions _ => []
  work ++ ((l.file.bind Logging.place?).toList.flatMap fun (directory, place) => [directory, place])

/-- The notice of a log that cannot be started. -/
def logNotice (fault : Logging.Fault) : Notice where
  text := "Failed to initialize logging: " ++ CommandError.settingsText fault.message
  isOpen := fault.isOpen

/-- The notice of an error. -/
def errorNotice (e : CommandError) (color : Bool) : Notice where
  text := e.shown color
  isOpen := e.isOpen

/-- The console of an invocation. The format that is asked for counts more than that of the
settings. -/
def console (i : Invocation) (color : Bool) (s : Settings) : Except CommandError Console :=
  let colored := color && s.output.color
  match i.output with
  | some format => .ok { format, color := colored, quiet := i.quiet }
  | none =>
    match s.reportFormat with
    | .ok format => .ok { format, color := colored, quiet := i.quiet }
    | .error fault => .error (.settings fault)

/-- Does what an invocation asks for. The scripts of completions are left out. -/
def perform (files : Files) (i : Invocation) (color : Bool) (s : Settings) : Outcome :=
  match console i color s with
  | .error e => ⟨"", .error e⟩
  | .ok c =>
    match i.task with
    | .run command => command.run files s c
    | .completions _ => ⟨"", .ok ()⟩

/-- Runs an invocation. Colours are for terminals only. -/
def invoke (files : Files) (e : Environment) (terminal : Bool) (i : Invocation) : RunResult :=
  let color := !i.noColor && terminal
  match settings files e i.settings with
  | .error error => { exitCode := error.exitCode, notices := [errorNotice error color] }
  | .ok s =>
    let l := logging e i s
    let fault := l.fault? files
    let notices := (fault.map logNotice).toList
    let logFile := if fault.isSome then none else l.file
    let outcome := perform files i color s
    match outcome.result with
    | .ok () => { exitCode := 0, output := outcome.output, notices, logFile }
    | .error error =>
      { exitCode := error.exitCode, output := outcome.output,
        notices := notices ++ [errorNotice error color], logFile }

/-- Runs the program, unless its arguments are refused. -/
def run (files : Files) (e : Environment) (terminal : Bool) (args : List String) :
    Except UsageError RunResult :=
  match Arguments.read e.settings args with
  | .error error => .error error
  | .ok i => .ok (invoke files e terminal i)

end Program
end DocSchema
