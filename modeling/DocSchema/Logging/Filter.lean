import DocSchema.Pattern
import DocSchema.Text.Blank
import DocSchema.Text.Digit

/-!
# Filters of log records

A filter has parts with commas between them, each a level, a target, a span in brackets with a
field in braces, or a target or span with its level. Only whether a filter is valid matters.
-/
namespace DocSchema.LogFilter

/-- What is wrong with a filter. -/
inductive Fault where
  /-- A part has no valid form. -/
  | part
  /-- A level has no known name. -/
  | level
  /-- A value that a field is compared with is no regular expression. -/
  | field
deriving DecidableEq, Repr

/-- The fault in words. What is wrong with a level or a value is left open. -/
def Fault.message : Fault → String
  | part => "invalid filter directive"
  | level => ""
  | field => "invalid field filter: "

/-- The message leaves its last part open. -/
def Fault.isOpen : Fault → Bool
  | part => false
  | level | field => true

/-- The names of levels. -/
def levelNames : List String := ["off", "error", "warn", "info", "debug", "trace"]

/-- A level: a name in any case, a number up to five, or nothing. -/
def isLevel (s : List Char) : Bool :=
  s.isEmpty || levelNames.contains (String.ofList (s.map Char.toLower)) ||
    (numeral? 10 (match s with
      | '+' :: ds => ds
      | ds => ds)).any (· ≤ 5)

/-- The fault of a level. -/
def levelFault? (s : List Char) : Option Fault := if isLevel s then none else some .level

/-- A character that a target can start with. -/
def startsTarget (c : Char) : Bool :=
  c = '-' || c = ':' || c = '_' || CharSet.letters.has c ||
    ((CharSet.category? "n").getD CharSet.empty).has c

/-- The fault of what follows a span. -/
def afterSpanFault? : List Char → Option Fault
  | [] => none
  | '=' :: level => levelFault? level
  | _ => some .part

/-- The fault of a field of a span. -/
def fieldFault? (s : List Char) : Option Fault :=
  if s.isEmpty then some .part
  else match s.dropWhile (· ≠ '=') with
    | [] => none
    | _ :: rest =>
      if (Pattern.compile? (String.ofList (rest.takeWhile (· ≠ '=')))).isSome then none
      else some .field

/-- The fault of a span after its opening bracket. -/
def spanFault? (s : List Char) : Option Fault :=
  match s.dropWhile fun c => c ≠ ']' ∧ c ≠ '\x7b' with
  | ']' :: rest => afterSpanFault? rest
  | '\x7b' :: inner =>
    match inner.dropWhile (· ≠ '\x7d') with
    | _ :: ']' :: rest => fieldFault? (inner.takeWhile (· ≠ '\x7d')) <|> afterSpanFault? rest
    | _ :: _ => fieldFault? (inner.takeWhile (· ≠ '\x7d')) <|> some .part
    | [] => some .part
  | _ => some .part

/-- The fault of a part. -/
def partFault? (s : List Char) : Option Fault :=
  match trim s with
  | [] => some .part
  | '[' :: rest => spanFault? rest
  | c :: rest =>
    if startsTarget c then
      match rest.dropWhile fun c => c ≠ '=' ∧ c ≠ '[' with
      | [] => none
      | '=' :: level => levelFault? level
      | _ :: span => spanFault? span
    else some .part

/-- The parts of a filter between commas. -/
def parts (s : List Char) : List (List Char) :=
  s.foldr (fun c parts => match parts with
    | [] => [[c]]
    | part :: rest => if c = ',' then [] :: part :: rest else (c :: part) :: rest) [[]]

/-- The first fault of a filter. Empty parts mean nothing. -/
def fault? (filter : String) : Option Fault :=
  ((parts filter.toList).filter (!·.isEmpty)).findSome? partFault?

end DocSchema.LogFilter
