import DocSchema.Text.Digit
import DocSchema.Yaml.Token

/-!
# Reading the scalars of a YAML text

Plain, quoted and block scalars all fold line breaks in some way; what is read so far and the
blanks that may still be dropped are kept apart. Fuel bounds the lines of a scalar.
-/
namespace DocSchema.Yaml

/-- The blanks after the text read so far: spaces on the same line, or the first line break and
those after it. -/
structure Blanks where
  spaces : List Char := []
  /-- A line break was met. -/
  broken : Bool := false
  first : List Char := []
  others : List Char := []

namespace Blanks

/-- What the blanks stand for between two words: a single break is a space, the first of several
breaks is dropped. -/
def fold (b : Blanks) : List Char :=
  if !b.broken then b.spaces
  else if b.first = ['\n'] then
    if b.others.isEmpty then [' '] else b.others
  else b.first ++ b.others

/-- Moves over spaces and breaks. With `limit`, a tab before that column of a new line is a
fault. -/
def take (limit : Option Nat) : Nat → Blanks → Cursor → Option (Blanks × Cursor)
  | 0, _, _ => none
  | fuel + 1, b, c =>
    match c.rest with
    | [] => some (b, c)
    | d :: _ =>
      if isSpace d then
        if b.broken && d = '\t' && limit.any (c.column < ·) then none
        else
          take limit fuel (if b.broken then b else { b with spaces := b.spaces ++ [d] })
            (c.advance 1)
      else if isBreak d then
        let (kept, c') := c.takeBreak
        if b.broken then take limit fuel { b with others := b.others ++ kept } c'
        else take limit fuel { b with spaces := [], broken := true, first := kept } c'
      else some (b, c)

end Blanks

/-! ## Plain scalars -/

/-- A word of a plain scalar, up to a gap or what ends the scalar. Inside brackets a colon before a
bracket or a comma is a fault. -/
def plainWord (inFlow : Bool) : List Char → Option (List Char)
  | [] => some []
  | c :: rest =>
    let isFlow (d : Char) : Bool := d = ',' || d = '[' || d = ']' || d = '\x7b' || d = '\x7d'
    if isGap c then some []
    else if inFlow && c = ':' && rest.head?.any (fun d => isFlow d || d = '?') then none
    else if c = ':' && endsWith isGap rest then some []
    else if inFlow && isFlow c then some []
    else (plainWord inFlow rest).map (c :: ·)

/-- The lines of a plain scalar from a word on, with the blanks before it: the text, whether it
ended after a line break, and the rest. -/
def plainLines (inFlow : Bool) (indent : Nat) :
    Nat → Blanks → Cursor → Option (List Char × Bool × Cursor)
  | 0, _, _ => none
  | fuel + 1, b, c =>
    if c.atIndicator || c.rest.head? = some '#' then some ([], b.broken, c)
    else do
      let word ← plainWord inFlow c.rest
      let start := if word.isEmpty then [] else b.fold ++ word
      let before := if word.isEmpty then b else {}
      let c := c.advance word.length
      if !(c.rest.head?.any isGap) then some (start, before.broken, c)
      else
        let (b, c) ← before.take (some indent) (c.rest.length + 1) c
        if !inFlow && c.column < indent then some (start, b.broken, c)
        else
          let (more, broken, c) ← plainLines inFlow indent fuel b c
          some (start ++ more, broken, c)

/-! ## Quoted scalars -/

/-- The character of an escape of one letter. -/
def letterEscape? (c : Char) : Option Char :=
  match c with
  | '0' => some '\x00'
  | 'a' => some '\x07'
  | 'b' => some '\x08'
  | 't' | '\t' => some '\t'
  | 'n' => some '\n'
  | 'v' => some '\x0b'
  | 'f' => some '\x0c'
  | 'r' => some '\r'
  | 'e' => some '\x1b'
  | ' ' => some ' '
  | '"' => some '"'
  | '/' => some '/'
  | '\\' => some '\\'
  | 'N' => some '\u0085'
  | '_' => some '\u00a0'
  | 'L' => some '\u2028'
  | 'P' => some '\u2029'
  | _ => none

/-- The character of an escape and the length of the escape, from its backslash on. -/
def escape? : List Char → Option (Char × Nat)
  | _ :: 'x' :: rest => (hexChar? 2 rest).map (·, 4)
  | _ :: 'u' :: rest => (hexChar? 4 rest).map (·, 6)
  | _ :: 'U' :: rest => (hexChar? 8 rest).map (·, 10)
  | _ :: c :: _ => (letterEscape? c).map (·, 2)
  | _ => none

/-- The characters of a quoted scalar up to a gap, to the closing quote, or over an escaped line
break: the characters, whether there was such a break, and the rest. -/
def quotedWord (single : Bool) : Nat → Cursor → Option (List Char × Bool × Cursor)
  | 0, _ => none
  | fuel + 1, c =>
    let more (d : Char) (count : Nat) : Option (List Char × Bool × Cursor) :=
      (quotedWord single fuel (c.advance count)).map fun (ds, broken, c) => (d :: ds, broken, c)
    match c.rest with
    | [] => some ([], false, c)
    | d :: rest =>
      if isGap d then some ([], false, c)
      else if single && d = '\'' && rest.head? = some '\'' then more '\'' 2
      else if d = (if single then '\'' else '"') then some ([], false, c)
      else if !single && d = '\\' then
        if rest.head?.any isBreak then some ([], true, (c.advance 1).skipBreak)
        else do
          let (e, count) ← escape? c.rest
          more e count
      else more d 1

/-- The lines of a quoted scalar up to its closing quote, which is consumed. -/
def quotedLines (single : Bool) : Nat → Cursor → Option (List Char × Cursor)
  | 0, _ => none
  | fuel + 1, c =>
    if c.atIndicator || c.rest.isEmpty then none
    else do
      let (word, broken, c) ← quotedWord single (c.rest.length + 1) c
      if c.rest.head? = some (if single then '\'' else '"') then some (word, c.advance 1)
      else
        let (b, c) ← Blanks.take none (c.rest.length + 1) { broken := broken } c
        let (more, c) ← quotedLines single fuel c
        some (word ++ b.fold ++ more, c)

/-! ## Block scalars -/

/-- What happens to the line breaks at the end of a block scalar. -/
inductive Chomping where
  | strip | clip | keep
deriving DecidableEq

/-- The indicators after the mark of a block scalar, in either order: the chomping and the
indentation. -/
def blockHeader (c : Cursor) : Option (Chomping × Option Nat × Cursor) :=
  let chomping? (d : Char) : Option Chomping :=
    if d = '+' then some .keep else if d = '-' then some .strip else none
  let indent? (d : Char) : Option Nat := if d.isDigit then some (d.toNat - '0'.toNat) else none
  let result := match c.rest.head? with
    | none => (Chomping.clip, none, c)
    | some d =>
      match chomping? d with
      | some chomping =>
        match c.rest.tail.head?.bind indent? with
        | some n => (chomping, some n, c.advance 2)
        | none => (chomping, none, c.advance 1)
      | none =>
        match indent? d with
        | some n =>
          match c.rest.tail.head?.bind chomping? with
          | some chomping => (chomping, some n, c.advance 2)
          | none => (.clip, some n, c.advance 1)
        | none => (.clip, none, c)
  if result.2.1 = some 0 then none else some result

/-- Moves over indentation and empty lines, up to an indentation where there is one: the breaks, the
greatest column met, and the rest. A tab within the indentation is a fault. -/
def blockBreaks (indent : Option Nat) : Nat → Nat → Cursor → Option (List Char × Nat × Cursor)
  | 0, _, _ => none
  | fuel + 1, widest, c =>
    let spaces := (c.rest.takeWhile (· = ' ')).length
    let c := c.advance (match indent with
      | some n => min spaces (n - c.column)
      | none => spaces)
    let widest := max widest c.column
    if indent.all (c.column < ·) && c.rest.head? = some '\t' then none
    else if !(c.rest.head?.any isBreak) then some ([], widest, c)
    else
      let (kept, c) := c.takeBreak
      (blockBreaks indent fuel widest c).map fun (more, widest, c) => (kept ++ more, widest, c)

/-- The lines of a block scalar, with the break before them and the empty lines after it: the text
and the breaks at its end. -/
def blockLines (folded : Bool) (indent : Nat) :
    Nat → Bool → List Char → List Char → Cursor →
      Option (List Char × List Char × List Char × Cursor)
  | 0, _, _, _, _ => none
  | fuel + 1, blankBefore, first, others, c =>
    if c.column ≠ indent || c.rest.isEmpty then some ([], first, others, c)
    else do
      let blank := c.rest.head?.any isSpace
      let joined :=
        if folded && first = ['\n'] && !blankBefore && !blank then
          if others.isEmpty then [' '] else []
        else first
      let line := c.rest.takeWhile (!isBreak ·)
      let (first', c) := (c.advance line.length).takeBreak
      let (others', _, c) ← blockBreaks (some indent) (c.rest.length + 1) 0 c
      let (more, last, lastOthers, c) ← blockLines folded indent fuel blank first' others' c
      some (joined ++ others ++ line ++ more, last, lastOthers, c)

/-- A block scalar after its mark, inside a block of an indentation. -/
def blockScalar (folded : Bool) (parent : Int) (c : Cursor) : Option (List Char × Cursor) := do
  let (chomping, increment, c) ← blockHeader c
  let c ← c.endOfLine?
  let given : Option Nat := increment.map fun n => (if 0 ≤ parent then parent.toNat else 0) + n
  let (others, widest, c) ← blockBreaks given (c.rest.length + 1) 0 c
  let indent := given.getD (max widest (max (parent + 1).toNat 1))
  let (text, last, lastOthers, c) ← blockLines folded indent (c.rest.length + 1) false [] others c
  let ending := match chomping with
    | .strip => []
    | .clip => last
    | .keep => last ++ lastOthers
  some (text ++ ending, c)

end DocSchema.Yaml
