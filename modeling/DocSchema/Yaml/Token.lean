/-!
# The tokens of a YAML text

The cursor that reads them keeps lines, columns and the distance from the start: indentation
decides about nesting, and a key has to stand on one line.
-/
namespace DocSchema.Yaml

/-- How a scalar was written. -/
inductive ScalarStyle where
  | plain | singleQuoted | doubleQuoted | literal | folded
deriving DecidableEq, Repr

/-- The parts of a YAML text. Blocks are opened and closed by indentation. -/
inductive Token where
  | version (major minor : Nat)
  | tagDirective (handle start : String)
  | documentStart | documentEnd
  | blockSequenceStart | blockMappingStart | blockEnd
  | flowSequenceStart | flowSequenceEnd | flowMappingStart | flowMappingEnd
  | blockEntry | flowEntry | key | value
  | alias (name : String)
  | anchor (name : String)
  | tag (handle suffix : String)
  | scalar (text : String) (style : ScalarStyle)
deriving DecidableEq, Repr

/-! ## Characters -/

/-- A space or a tab. -/
def isSpace (c : Char) : Bool := c = ' ' || c = '\t'

/-- A character that ends a line. -/
def isBreak (c : Char) : Bool :=
  c = '\r' || c = '\n' || c = '\u0085' || c = '\u2028' || c = '\u2029'

/-- A character that ends a word. -/
def isGap (c : Char) : Bool := isSpace c || isBreak c

/-- A character of anchors and tag handles. -/
def isNameChar (c : Char) : Bool := c.isAlphanum || c = '_' || c = '-'

/-- A character that a text may hold. -/
def isAllowed (c : Char) : Bool :=
  let n := c.toNat
  n = 9 || n = 10 || n = 13 || (0x20 ≤ n && n ≤ 0x7E) || n = 0x85 || (0xA0 ≤ n && n ≤ 0xFFFD) ||
    0x10000 ≤ n

/-- The next character is missing or satisfies a condition. -/
def endsWith (p : Char → Bool) : List Char → Bool
  | [] => true
  | c :: _ => p c

/-- A text starts with a document indicator, the same character three times before a gap. -/
def isIndicator (c : Char) (s : List Char) : Bool :=
  [c, c, c].isPrefixOf s && endsWith isGap (s.drop 3)

/-! ## The cursor -/

/-- The text that is left and its place. -/
structure Cursor where
  rest : List Char
  index : Nat := 0
  line : Nat := 0
  column : Nat := 0

namespace Cursor

/-- Moves over characters of one line. -/
def advance (c : Cursor) (count : Nat) : Cursor :=
  { c with rest := c.rest.drop count, index := c.index + count, column := c.column + count }

/-- Moves over the characters of one line that satisfy a condition. -/
def skipWhile (p : Char → Bool) (c : Cursor) : Cursor := c.advance (c.rest.takeWhile p).length

/-- Moves over a line break; the break as it counts in a scalar. -/
def takeBreak (c : Cursor) : List Char × Cursor :=
  let next (kept : Char) (count : Nat) : List Char × Cursor :=
    ([kept],
      { rest := c.rest.drop count, index := c.index + count, line := c.line + 1, column := 0 })
  match c.rest with
  | '\r' :: '\n' :: _ => next '\n' 2
  | '\u2028' :: _ => next '\u2028' 1
  | '\u2029' :: _ => next '\u2029' 1
  | d :: _ => if isBreak d then next '\n' 1 else ([], c)
  | [] => ([], c)

/-- Moves over a line break. -/
def skipBreak (c : Cursor) : Cursor := c.takeBreak.2

/-- A document indicator stands here at the start of a line. -/
def atIndicator (c : Cursor) : Bool :=
  c.column = 0 && (isIndicator '-' c.rest || isIndicator '.' c.rest)

/-- Moves over spaces and a comment; what follows has to be the end of the line, over which it moves
too. -/
def endOfLine? (c : Cursor) : Option Cursor :=
  let c := c.skipWhile isSpace
  let c := if c.rest.head? = some '#' then c.skipWhile (!isBreak ·) else c
  if endsWith isBreak c.rest then some c.skipBreak else none

end Cursor
end DocSchema.Yaml
