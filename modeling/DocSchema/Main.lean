import DocSchema.Program

/-!
# The command line

Collects the variables and the files that a run may need, runs the program on them, and writes
what it gives. Log records are left out; a log file is only opened.
-/
namespace DocSchema.Main

/-- What a path leads to. -/
def look (path : String) : IO (String × Except FileError Entry) := do
  try
    return (path, .ok (.file (← IO.FS.readBinFile path).toList))
  catch e =>
    match e with
    | .noFileOrDirectory .. => return (path, .error .notFound)
    | .inappropriateType _ code _ =>
      return (path, if code = 20 then .error .notDirectory else .ok .directory)
    | .permissionDenied .. => return (path, .error (.other "Permission denied (os error 13)"))
    | e => return (path, .error (.other (toString e)))

/-- The variables of the environment; an empty home directory is none. -/
def environment : IO Environment := do
  let found ← Environment.names.mapM fun name => do return (name, ← IO.getEnv name)
  let e := Environment.ofLookup fun name => (found.lookup name).join
  return { e with home := e.home.filter (· ≠ "") }

/-- The files that an invocation may need. -/
def collect (e : Environment) (i : Invocation) : IO Files := do
  let first ← (Program.settingsPaths e i).mapM look
  match Program.settings (Files.ofList first) e i.settings with
  | .error _ => return Files.ofList first
  | .ok s =>
    let more ← (Program.taskPaths i.task (Program.logging e i s)).mapM look
    return Files.ofList (first ++ more)

/-- Opens a log file, with the directories on the way. -/
def openLog (path : String) : IO Unit := do
  match Logging.place? path with
  | none => return
  | some (directory, place) =>
    unless directory = "" do IO.FS.createDirAll directory
    let _ ← IO.FS.Handle.mk place .append

/-- Answers arguments that are refused. -/
def refuse (error : UsageError) : IO UInt32 := do
  match error with
  | .version command =>
    IO.print (Program.versionText command)
    return 0
  | .help =>
    IO.print usageText
    return 0
  | .nothing =>
    IO.eprint usageText
    return 2
  | error =>
    IO.eprint s!"error: {error.message}\n\n{usageText}"
    return 2

end DocSchema.Main

open DocSchema in
/-- Runs the program. -/
def main (args : List String) : IO UInt32 := do
  let e ← Main.environment
  match Arguments.read e.settings args with
  | .error error => Main.refuse error
  | .ok i =>
    let files ← Main.collect e i
    let result := Program.invoke files e (← (← IO.getStdout).isTty) i
    result.logFile.forM Main.openLog
    for notice in result.notices do
      IO.eprintln notice.text
    IO.print result.output
    return result.exitCode.toUInt32
