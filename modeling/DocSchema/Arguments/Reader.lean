import DocSchema.Arguments

/-!
# Reading the command line

Arguments are read on two levels, before and after the name of the command, with the flags that
are allowed there. A value that stands in an argument of its own is pending until something else
begins, and only then it is judged.
-/
namespace DocSchema.Arguments

/-- What was given on a level. -/
structure Given where
  /-- How often more output was asked for, up to 255 times. -/
  verbosity : Nat := 0
  quiet : Bool := false
  noColor : Bool := false
  failFast : Bool := false
  onlyVerdict : Bool := false
  settings : Option String := none
  output : Option ReportFormat := none
  maxErrors : Option Nat := none
  schema : Option String := none
  documents : List String := []
  shell : Option Shell := none
deriving DecidableEq, Repr

namespace Given

/-- The greatest number of requests for more output. -/
def maxVerbosity : Nat := 255

/-- Sets what may be set once. -/
def once {α : Type} (old : Option α) (value : Except UsageError α) : Except UsageError (Option α) :=
  if old.isSome then .error .conflict else value.map some

/-- A path, which cannot be empty. -/
def path (s : String) : Except UsageError String := if s = "" then .error .invalidValue else .ok s

/-- One of several names. -/
def choice {α : Type} (ofLabel? : String → Option α) (s : String) : Except UsageError α :=
  match ofLabel? s with
  | some v => .ok v
  | none => .error .invalidValue

/-- A number below `2 ^ 64`, perhaps with a plus sign. -/
def number (s : String) : Except UsageError Nat :=
  let digits := match s.toList with
    | '+' :: ds => ds
    | ds => ds
  match numeral? 10 digits with
  | some n => if n < UInt64.size then .ok n else .error .invalidNumber
  | none => .error .invalidNumber

/-- Gives values to a slot. -/
def fill (g : Given) (slot : Slot) (values : List String) : Except UsageError Given :=
  match values with
  | [] => .error .invalidValue
  | v :: _ =>
    match slot with
    | .settings => (once g.settings (path v)).map fun settings => { g with settings }
    | .output =>
      (once g.output (choice ReportFormat.ofLabel? v)).map fun output => { g with output }
    | .maxErrors => (once g.maxErrors (number v)).map fun maxErrors => { g with maxErrors }
    | .schema => (once g.schema (path v)).map fun schema => { g with schema }
    | .shell => (once g.shell (choice Shell.ofLabel? v)).map fun shell => { g with shell }
    | .documents => (values.mapM path).map fun paths => { g with documents := g.documents ++ paths }

/-- Raises a flag without a value. All but the request for more output may be raised once. -/
def raise (g : Given) (command : Option CommandName) (flag : Flag) : Except UsageError Given :=
  match flag with
  | .verbose => .ok { g with verbosity := min maxVerbosity (g.verbosity + 1) }
  | .quiet => if g.quiet then .error .conflict else .ok { g with quiet := true }
  | .noColor => if g.noColor then .error .conflict else .ok { g with noColor := true }
  | .failFast => if g.failFast then .error .conflict else .ok { g with failFast := true }
  | .check => if g.onlyVerdict then .error .conflict else .ok { g with onlyVerdict := true }
  | .help => .error .help
  | .version => .error (.version command)
  | .settings | .output | .maxErrors => .error .invalidValue

end Given

/-! ## One level -/

/-- Where reading a level is. -/
structure Level where
  given : Given := {}
  /-- The values that are not judged yet. -/
  pending : Option (Slot × List String) := none
  /-- The slots of further arguments that are no flags. -/
  slots : List Slot
  /-- Two dashes were met: no flag follows. -/
  plain : Bool := false

namespace Level

/-- Judges what is pending. -/
def settle (l : Level) : Except UsageError Level :=
  match l.pending with
  | none => .ok l
  | some (slot, values) =>
    (l.given.fill slot values).map fun given => { l with given, pending := none }

/-- Gives a value to a slot at once. -/
def fill (l : Level) (slot : Slot) (value : List Char) : Except UsageError Level := do
  let l ← l.settle
  return { l with given := ← l.given.fill slot [String.ofList value] }

/-- Waits for the value of a slot. -/
def await (l : Level) (slot : Slot) : Except UsageError Level := do
  let l ← l.settle
  return { l with pending := some (slot, []) }

/-- Raises a flag without a value. -/
def raise (l : Level) (command : Option CommandName) (flag : Flag) : Except UsageError Level := do
  let l ← l.settle
  return { l with given := ← l.given.raise command flag }

/-- The slot of a flag that waits for its value. -/
def awaited? (l : Level) : Option Slot :=
  match l.pending with
  | some (slot, []) => some slot
  | _ => none

/-- Flags after one dash; the rest after a flag with a value is the value, perhaps after an equals
sign. -/
def letters (command : Option CommandName) (flags : List Flag) (l : Level) :
    List Char → Except UsageError Level
  | [] => .ok l
  | c :: rest =>
    match flags.find? (·.letter? = some c) with
    | none => .error .unknownArgument
    | some flag =>
      match flag.slot?, rest with
      | none, rest => do letters command flags (← l.raise command flag) rest
      | some slot, [] => l.await slot
      | some slot, '=' :: value => l.fill slot value
      | some slot, value => l.fill slot value

/-- A flag after two dashes, perhaps with a value after an equals sign. -/
def word (command : Option CommandName) (flags : List Flag) (l : Level) (s : List Char) :
    Except UsageError Level :=
  let name := String.ofList (s.takeWhile (· ≠ '='))
  match flags.find? (·.label = name) with
  | none => .error .unknownArgument
  | some flag =>
    match flag.slot?, s.dropWhile (· ≠ '=') with
    | none, [] => l.raise command flag
    | none, _ => .error .surplusValue
    | some slot, [] => l.await slot
    | some slot, _ :: value => l.fill slot value

/-- An argument that is no flag. -/
def place (l : Level) (s : String) : Except UsageError Level :=
  match l.slots with
  | [] => .error .unknownArgument
  | .documents :: rest =>
    match l.pending with
    | some (.documents, values) => .ok { l with pending := some (.documents, values ++ [s]) }
    | _ => do
      let l ← l.settle
      return { l with pending := some (.documents, [s]), slots := .documents :: rest }
  | slot :: rest => do
    let l ← l.settle
    return { l with pending := some (slot, [s]), slots := rest }

/-- An argument on a level. -/
def take (command : Option CommandName) (flags : List Flag) (l : Level) (s : String) :
    Except UsageError Level :=
  let other : Except UsageError Level :=
    match l.awaited? with
    | some slot => .ok { l with pending := some (slot, [s]) }
    | none => l.place s
  if l.plain then l.place s
  else match s.toList with
    | ['-', '-'] => .ok { l with plain := true }
    | '-' :: '-' :: name => l.word command flags name
    | ['-'] => other
    | '-' :: cs => l.letters command flags cs
    | _ => other

end Level

/-! ## Both levels -/

/-- Reads the arguments after the name of a command. -/
def readAfter (name : CommandName) (args : List String) : Except UsageError Given := do
  let start : Level := { slots := name.slots }
  let l ← args.foldlM (fun l s => l.take (some name) name.flags s) start
  return (← l.settle).given

/-- What comes of help on commands: each argument has to be the name of a command, and commands have
no commands of their own. -/
def helpOn : List String → UsageError
  | [] => .help
  | [name] => if name = "help" ∨ (CommandName.ofLabel? name).isSome then .help else .unknownCommand
  | _ => .unknownCommand

/-- An argument before the name of a command that is neither a flag nor such a name. -/
def refuse (l : Level) (s : String) : UsageError :=
  if l.plain ∧ (s = "help" ∨ (CommandName.ofLabel? s).isSome) then .unknownArgument
  else .unknownCommand

/-- Reads the arguments up to the name of a command: what was given so far, the command, and the
arguments after it. -/
def readBefore (l : Level) :
    List String → Except UsageError (Level × Option (CommandName × List String))
  | [] => .ok (l, none)
  | s :: rest =>
    if l.plain then .error (refuse l s)
    else if l.awaited?.isSome then do readBefore (← l.take none Flag.everywhere s) rest
    else if s = "help" then .error (helpOn rest)
    else match CommandName.ofLabel? s with
      | some name => .ok (l, some (name, rest))
      | none =>
        if s.toList.head? = some '-' ∧ s ≠ "-" then do
          readBefore (← l.take none Flag.everywhere s) rest
        else .error (refuse l s)

/-- Whether the arguments of a level agree with each other. -/
def agree (g : Given) : Except UsageError Unit :=
  if g.quiet ∧ 0 < g.verbosity then .error .conflict else .ok ()

/-- What is to be done, if no argument of the command is missing. -/
def task (name : CommandName) (g : Given) : Except UsageError Task :=
  match name, g.schema, g.documents, g.shell with
  | .validate, some schema, d :: ds, _ =>
    .ok (.run (.validate schema (d :: ds)
      { failFast := g.failFast, maxErrors := g.maxErrors.getD 0 }))
  | .check, some schema, _, _ => .ok (.run (.check schema))
  | .format, some schema, _, _ => .ok (.run (.format schema g.onlyVerdict))
  | .completions, _, _, some shell => .ok (.completions shell)
  | _, _, _, _ => .error .missingArgument

/-- A level on which no settings file is named takes it from the fallback. -/
def withFallback (fallback : Option String) (g : Given) : Except UsageError Given :=
  match g.settings, fallback with
  | none, some value => (Given.path value).map fun settings => { g with settings := some settings }
  | _, _ => .ok g

/-- The settings file: the one that was named, on the inner level if on both, or the
fallback. -/
def settingsFile (outer inner : Given) (fallback : Option String) : Option String :=
  inner.settings <|> outer.settings <|> fallback

/-- What arguments ask for, with a fallback for the settings file. What is given after the name
of the command counts more than what is given before it. -/
def read (fallback : Option String) (args : List String) : Except UsageError Invocation := do
  let (outer, rest) ← readBefore { slots := [] } args
  match rest with
  | none =>
    let given := (← outer.settle).given
    let given ← withFallback fallback given
    if given = {} then .error .nothing else .error .missingCommand
  | some (name, args) =>
    let inner ← readAfter name args
    let _ ← withFallback fallback inner
    agree inner
    let task ← task name inner
    let outer := (← outer.settle).given
    let _ ← withFallback fallback outer
    agree outer
    return {
      verbosity := if inner.verbosity = 0 then outer.verbosity else inner.verbosity
      quiet := inner.quiet || outer.quiet
      noColor := inner.noColor || outer.noColor
      settings := settingsFile outer inner fallback
      output := inner.output <|> outer.output
      task }

end DocSchema.Arguments
