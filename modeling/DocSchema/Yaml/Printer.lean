import DocSchema.Yaml.Value

/-!
# The YAML text of a document value

The text has blocks of two spaces, with a sequence at the indentation of its key. A string is
written plain where it reads back as itself, as a literal block where it has line feeds, and
between quotes otherwise.
-/
namespace DocSchema.Yaml

/-- Exponents have no plus sign here. -/
def realStyle : Binary64.Style := ⟨-5, 16, false⟩

/-! ## Which forms a text may take -/

/-- A character that is written as it is. -/
def isPrintable (c : Char) : Bool :=
  let n := c.toNat
  n = 0x0A || (0x20 ≤ n && n ≤ 0x7E) || (0xA0 ≤ n && n ≤ 0xFFFD && n ≠ 0xFEFF)

/-- A text as plain would read as something else than a text. -/
def needsQuotes (s : String) : Bool :=
  match plainValue s with
  | some (.string _) => isPaddedNumber s.toList
  | _ => true

/-- A character with what stands before and after it has a meaning of its own in a plain text. -/
def isMarkAt (before : Option Char) (c : Char) (after : List Char) : Bool :=
  let gapAfter := endsWith isGap after
  match before with
  | none =>
    ['#', ',', '[', ']', '\x7b', '\x7d', '&', '*', '!', '|', '>', '\'', '"', '%', '@',
      '`'].contains c ||
      ((c = '?' || c = ':' || c = '-') && gapAfter)
  | some b => (c = ':' && gapAfter) || (c = '#' && isGap b)

/-- A text has a character with a meaning of its own. -/
def hasMark (before : Option Char) : List Char → Bool
  | [] => false
  | c :: rest => isMarkAt before c rest || hasMark (some c) rest

/-- Two characters that satisfy two conditions stand next to each other. -/
def hasPair (p q : Char → Bool) : List Char → Bool
  | c :: d :: rest => (p c && q d) || hasPair p q (d :: rest)
  | _ => false

/-- What a text looks like, as far as it decides about its form. -/
structure Looks where
  plain : Bool
  single : Bool
  block : Bool
  multiline : Bool

/-- The forms that a text may take. -/
def looks (s : List Char) : Looks :=
  if s.isEmpty then ⟨true, true, false, false⟩
  else
    let edge (p : Char → Bool) : Bool := s.head?.any p || s.getLast?.any p
    let special := s.any (!isPrintable ·)
    let breakSpace := hasPair isBreak (· = ' ') s
    let spaceBreak := hasPair (· = ' ') isBreak s
    let multiline := s.any isBreak
    let dashes := ['-', '-', '-'].isPrefixOf s || ['.', '.', '.'].isPrefixOf s
    let single := !(breakSpace || spaceBreak || special)
    { plain := single && !multiline && !edge (fun c => c = ' ' || isBreak c) && !dashes &&
        !hasMark none s
      single
      block := !(spaceBreak || special) && s.getLast? ≠ some ' '
      multiline }

/-! ## Scalars -/

/-- The start of a line at an indentation. -/
def pad (indent : Nat) : List Char := List.replicate indent ' '

/-- Hexadecimal digits in upper case, as many as asked for. -/
def hexDigits (n : Nat) : Nat → List Char
  | 0 => []
  | count + 1 => hexDigits (n / 16) count ++ [(Nat.digitChar (n % 16)).toUpper]

/-- A character between double quotes. -/
def escape (c : Char) : List Char :=
  if isPrintable c && !isBreak c && c ≠ '"' && c ≠ '\\' then [c]
  else match c with
    | '\x00' => ['\\', '0']
    | '\x07' => ['\\', 'a']
    | '\x08' => ['\\', 'b']
    | '\t' => ['\\', 't']
    | '\n' => ['\\', 'n']
    | '\x0b' => ['\\', 'v']
    | '\x0c' => ['\\', 'f']
    | '\r' => ['\\', 'r']
    | '\x1b' => ['\\', 'e']
    | '"' => ['\\', '"']
    | '\\' => ['\\', '\\']
    | '\u0085' => ['\\', 'N']
    | '\u2028' => ['\\', 'L']
    | '\u2029' => ['\\', 'P']
    | c =>
      let n := c.toNat
      if n ≤ 0xFF then '\\' :: 'x' :: hexDigits n 2
      else if n ≤ 0xFFFF then '\\' :: 'u' :: hexDigits n 4
      else '\\' :: 'U' :: hexDigits n 8

/-- A text between double quotes. -/
def doubleQuoted (s : List Char) : List Char := '"' :: (s.flatMap escape ++ ['"'])

/-- Lines at an indentation: each character that follows a break is indented unless it is a
break. -/
def indentLines (indent : Nat) (broken : Bool) (quote : Bool) : List Char → List Char
  | [] => if broken && quote then pad indent else []
  | c :: rest =>
    if isBreak c then c :: indentLines indent true quote rest
    else
      (if broken then pad indent else []) ++ (if quote && c = '\'' then ['\'', '\''] else [c]) ++
        indentLines indent false quote rest

/-- A text between single quotes. -/
def singleQuoted (indent : Nat) (s : List Char) : List Char :=
  '\'' :: (indentLines indent false true s ++ ['\''])

/-- The marks of a literal block: its indentation if it starts with a blank, and what becomes of the
breaks at its end. -/
def literalHints (s : List Char) : List Char :=
  let hint := if s.head?.any (fun c => c = ' ' || isBreak c) then ['2'] else []
  let chomping := match s.reverse with
    | [] => ['-']
    | c :: rest =>
      if !isBreak c then ['-']
      else if rest.isEmpty || rest.head?.any isBreak then ['+']
      else []
  hint ++ chomping

/-- A literal block. -/
def literalBlock (indent : Nat) (s : List Char) : List Char :=
  '|' :: (literalHints s ++ '\n' :: indentLines indent true false s)

/-- The text of a string whose further lines stand at an indentation; a key stands on one line. -/
def printString (indent : Nat) (onOneLine : Bool) (text : String) : List Char :=
  let s := text.toList
  let l := looks s
  if s.contains '\n' then
    if l.block && !onOneLine then literalBlock indent s else doubleQuoted s
  else if onOneLine && l.multiline then doubleQuoted s
  else if l.plain && !needsQuotes text then s
  else if l.single then singleQuoted indent s
  else doubleQuoted s

/-- The text of a value without children; empty collections are written in brackets. -/
def printScalar (indent : Nat) : Json → List Char
  | .string s => printString indent false s
  | .number (.real x) => (x.render realStyle).toList
  | .array _ => ['[', ']']
  | .object _ => ['\x7b', '\x7d']
  | v => Json.printScalar v

/-! ## Blocks -/

/-- A text and a line after it. What ends with a line feed needs no other one. -/
def thenLine (indent : Nat) (s t : List Char) : List Char :=
  if s.getLast? = some '\n' then s ++ pad indent ++ t else s ++ '\n' :: (pad indent ++ t)

/-- The longest key, in bytes, that needs no mark. -/
def maxKeyLength : Nat := 128

/-- A key may stand on the line of its value without a mark. -/
def isSimpleKey (key : String) : Bool :=
  !(looks key.toList).multiline && key.utf8ByteSize ≤ maxKeyLength

mutual

/-- A value that starts at the end of a line which is indented by as much as the value itself. -/
def printInline (indent : Nat) : Json → List Char
  | .array (v :: vs) => printItems indent (v :: vs)
  | .object (m :: ms) => printPairs indent (m :: ms)
  | v => printScalar indent v

/-- A value after its key. -/
def printAfterKey (indent : Nat) : Json → List Char
  | .array (v :: vs) => '\n' :: (pad indent ++ printItems indent (v :: vs))
  | .object (m :: ms) => '\n' :: (pad (indent + 2) ++ printPairs (indent + 2) (m :: ms))
  | v => ' ' :: printScalar (indent + 2) v

/-- The items of a sequence, the first at the end of a line. -/
def printItems (indent : Nat) : List Json → List Char
  | [] => []
  | [v] => '-' :: ' ' :: printInline (indent + 2) v
  | v :: w :: rest =>
    thenLine indent ('-' :: ' ' :: printInline (indent + 2) v) (printItems indent (w :: rest))

/-- A pair of a mapping. A key that is long or has several lines is marked. -/
def printPair (indent : Nat) : String × Json → List Char
  | (key, v) =>
    if isSimpleKey key then printString (indent + 2) true key ++ ':' :: printAfterKey indent v
    else
      thenLine indent ('?' :: ' ' :: printString (indent + 2) false key)
        (':' :: ' ' :: printInline (indent + 2) v)

/-- The pairs of a mapping, the first at the end of a line. -/
def printPairs (indent : Nat) : List (String × Json) → List Char
  | [] => []
  | [m] => printPair indent m
  | m :: n :: rest => thenLine indent (printPair indent m) (printPairs indent (n :: rest))

end

/-- The text of a value, with a line feed at its end. -/
def print (v : Json) : List Char :=
  let text := match v with
    | .array (_ :: _) | .object (_ :: _) => printInline 0 v
    | v => printScalar 2 v
  if text.getLast? = some '\n' then text else text ++ ['\n']

/-- The YAML text of a value. -/
def toText (v : Json) : String := String.ofList (print v)

end DocSchema.Yaml
