import DocSchema.Command

/-!
# The vocabulary of the command line

Commands, flags, the values that arguments fill, and the ways in which arguments are refused.
-/
namespace DocSchema

/-- The shells for which there are completions. -/
inductive Shell where
  | bash | zsh | fish | powerShell | elvish
deriving DecidableEq, Repr

/-- All shells. -/
def Shell.all : List Shell := [bash, zsh, fish, powerShell, elvish]

/-- The name of a shell in arguments. -/
def Shell.label : Shell → String
  | bash => "bash"
  | zsh => "zsh"
  | fish => "fish"
  | powerShell => "power-shell"
  | elvish => "elvish"

/-- The shell of a name. -/
def Shell.ofLabel? (name : String) : Option Shell := Shell.all.find? (·.label = name)

/-- The names of commands. -/
inductive CommandName where
  | validate | check | format | completions
deriving DecidableEq, Repr

/-- All commands. -/
def CommandName.all : List CommandName := [validate, check, format, completions]

/-- The name of a command in arguments. -/
def CommandName.label : CommandName → String
  | validate => "validate"
  | check => "check"
  | format => "fmt"
  | completions => "completions"

/-- The command of a name. -/
def CommandName.ofLabel? (name : String) : Option CommandName :=
  CommandName.all.find? (·.label = name)

/-! ## Flags and values -/

/-- What arguments give values to. -/
inductive Slot where
  | settings | output | maxErrors | schema | documents | shell
deriving DecidableEq, Repr

/-- The flags. -/
inductive Flag where
  | verbose | quiet | settings | output | noColor | failFast | maxErrors | check | help | version
deriving DecidableEq, Repr

namespace Flag

/-- The name of a flag after two dashes. -/
def label : Flag → String
  | verbose => "verbose"
  | quiet => "quiet"
  | settings => "config"
  | output => "output"
  | noColor => "no-color"
  | failFast => "fail-fast"
  | maxErrors => "max-errors"
  | check => "check"
  | help => "help"
  | version => "version"

/-- The letter of a flag after one dash. -/
def letter? : Flag → Option Char
  | verbose => some 'v'
  | quiet => some 'q'
  | settings => some 'c'
  | output => some 'o'
  | help => some 'h'
  | version => some 'V'
  | _ => none

/-- What the value after a flag is for; most flags have none. -/
def slot? : Flag → Option Slot
  | settings => some .settings
  | output => some .output
  | maxErrors => some .maxErrors
  | _ => none

/-- The flags that may stand before and after a command. -/
def everywhere : List Flag := [verbose, quiet, settings, output, noColor, help, version]

end Flag

/-- The flags that may stand after a command. -/
def CommandName.flags : CommandName → List Flag
  | validate => Flag.everywhere ++ [.failFast, .maxErrors]
  | format => Flag.everywhere ++ [.check]
  | check | completions => Flag.everywhere

/-- What the arguments of a command that are no flags are for, in order; documents may be many. -/
def CommandName.slots : CommandName → List Slot
  | validate => [.schema, .documents]
  | check | format => [.schema]
  | completions => [.shell]

/-! ## What arguments ask for -/

/-- Why arguments ask for nothing that can be done. Help and the version are asked for, but not done
here. -/
inductive UsageError where
  | help
  /-- There are no arguments at all. -/
  | nothing
  | version (command : Option CommandName)
  | unknownArgument
  | unknownCommand
  | missingCommand
  | missingArgument
  /-- A flag is repeated or excluded by another one. -/
  | conflict
  /-- A value is missing, empty or not one of those that are possible. -/
  | invalidValue
  /-- A value is no number. -/
  | invalidNumber
  /-- A flag without a value has one. -/
  | surplusValue
deriving DecidableEq, Repr

/-- Why the arguments are refused, in words. -/
def UsageError.message : UsageError → String
  | help | nothing | version _ => ""
  | unknownArgument => "unexpected argument"
  | unknownCommand => "unrecognized subcommand"
  | missingCommand => "a subcommand is required"
  | missingArgument => "a required argument was not provided"
  | conflict => "arguments that cannot be used together or more than once"
  | invalidValue => "an invalid or missing value for an argument"
  | invalidNumber => "an invalid number for an argument"
  | surplusValue => "an unexpected value for a flag"

/-- How the program is used. -/
def usageText : String :=
  "Usage: jsonv [-v | -q] [-c FILE] [-o FORMAT] [--no-color] COMMAND\n" ++
  "\n" ++
  "Commands:\n" ++
  "  validate SCHEMA DOCUMENT... [--fail-fast] [--max-errors N]\n" ++
  "  check SCHEMA\n" ++
  "  fmt SCHEMA [--check]\n" ++
  "  completions SHELL\n"

/-- What is to be done. -/
inductive Task where
  | run (command : Command)
  | completions (shell : Shell)
deriving DecidableEq, Repr

/-- What arguments ask for. -/
structure Invocation where
  verbosity : Nat := 0
  quiet : Bool := false
  noColor : Bool := false
  settings : Option String := none
  output : Option ReportFormat := none
  task : Task
deriving DecidableEq, Repr

/-- How much is to be logged. -/
def Invocation.loudness (i : Invocation) : Nat := if i.quiet then 0 else i.verbosity

end DocSchema
