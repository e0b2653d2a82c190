import DocSchema.Yaml.Tag

/-!
# Cutting a YAML text into tokens

Indentation opens and closes blocks. A key that has no mark of its own is known by the colon after
it only: until then the place where it began is remembered, and the colon puts the key token, and
the start of its block, in front of what was read since.
-/
namespace DocSchema.Yaml

/-- A place where a key without a mark may have begun. -/
structure KeyPlace where
  /-- Nothing else than a key may stand there. -/
  required : Bool
  /-- The number of tokens before it. -/
  tokens : Nat
  index : Nat
  line : Nat
  column : Nat

/-- What cutting goes on with. Lists that grow hold the latest item first. -/
structure Lexer where
  cursor : Cursor
  tokens : List Token := []
  /-- The column of the innermost block, or `-1` outside blocks. -/
  indent : Int := -1
  indents : List Int := []
  /-- A key without a mark may begin here. -/
  keyAllowed : Bool := true
  /-- For each pair of brackets, innermost first, and for the text around them. -/
  places : List (Option KeyPlace) := [none]

namespace Lexer

/-- The cursor stands inside brackets. -/
def inFlow (l : Lexer) : Bool := 1 < l.places.length

/-- Adds a token. -/
def push (l : Lexer) (t : Token) : Lexer := { l with tokens := t :: l.tokens }

/-- Moves over some characters. -/
def advance (l : Lexer) (count : Nat) : Lexer := { l with cursor := l.cursor.advance count }

/-- Puts a token behind a number of tokens. -/
def insertAt (l : Lexer) (number : Nat) (t : Token) : Lexer :=
  { l with tokens := l.tokens.insertIdx (l.tokens.length - number) t }

/-- Opens a block at a column deeper than the innermost one; its start stands behind a number of
tokens. -/
def openBlock (l : Lexer) (column number : Nat) (t : Token) : Lexer :=
  if l.inFlow || column ≤ l.indent then l
  else { l with indent := column, indents := l.indent :: l.indents }.insertAt number t

/-- Closes the blocks that are deeper than a column. -/
def closeBlocks (column : Int) (l : Lexer) : Lexer :=
  if l.inFlow then l
  else
    let outer := (l.indent :: l.indents).dropWhile (column < ·)
    let closed := l.indents.length + 1 - outer.length
    match outer with
    | [] => l
    | indent :: indents =>
      { l with indent, indents, tokens := List.replicate closed .blockEnd ++ l.tokens }

/-- Remembers that a key may begin here, if it may. A required key that was begun before and never
ended is a fault. -/
def savePlace (l : Lexer) : Option Lexer :=
  if !l.keyAllowed then some l
  else match l.places with
    | [] => some l
    | place :: outer =>
      if place.any (·.required) then none
      else
        let c := l.cursor
        let required := !l.inFlow && l.indent = c.column
        some { l with
          places := some ⟨required, l.tokens.length, c.index, c.line, c.column⟩ :: outer }

/-- Forgets the place where a key may have begun. -/
def dropPlace (l : Lexer) : Option Lexer :=
  match l.places with
  | [] => some l
  | place :: outer =>
    if place.any (·.required) then none else some { l with places := none :: outer }

/-- Forgets the places that are too far back: a key stands on one line and within 1024
characters. -/
def dropStale (l : Lexer) : Option Lexer :=
  let c := l.cursor
  let stale (p : KeyPlace) : Bool := p.line < c.line || p.index + 1024 < c.index
  if l.places.any fun place => place.any fun p => stale p && p.required then none
  else some { l with places := l.places.map fun place => place.filter (!stale ·) }

/-- Moves over blanks, comments and line breaks. In blocks a line break allows a key, and where
a key is allowed a tab is no blank. -/
def skipToToken : Nat → Lexer → Lexer
  | 0, l => l
  | fuel + 1, l =>
    let c := l.cursor
    let c := if c.column = 0 && c.rest.head? = some '\ufeff' then c.advance 1 else c
    let tabs := l.inFlow || !l.keyAllowed
    let c := c.skipWhile fun d => d = ' ' || (tabs && d = '\t')
    let c := if c.rest.head? = some '#' then c.skipWhile (!isBreak ·) else c
    if c.rest.head?.any isBreak then
      skipToToken fuel { l with cursor := c.skipBreak, keyAllowed := l.keyAllowed || !l.inFlow }
    else { l with cursor := c }

/-! ## Single tokens -/

/-- A directive or a document indicator, which closes all blocks. -/
def atTopLevel (l : Lexer) (token? : Cursor → Option (Token × Cursor)) : Option Lexer := do
  let l ← (l.closeBlocks (-1)).dropPlace
  let (t, c) ← token? l.cursor
  some ({ l with cursor := c, keyAllowed := false }.push t)

/-- An opening bracket. -/
def openFlow (l : Lexer) (t : Token) : Option Lexer := do
  let l ← l.savePlace
  some (({ l with places := none :: l.places, keyAllowed := true }.push t).advance 1)

/-- A closing bracket. -/
def closeFlow (l : Lexer) (t : Token) : Option Lexer := do
  let l ← l.dropPlace
  let places := if l.inFlow then l.places.tail else l.places
  some (({ l with places, keyAllowed := false }.push t).advance 1)

/-- A mark of an entry, a key or a value that opens a block where it may. -/
def blockMark (l : Lexer) (start mark : Token) : Option Lexer :=
  if !l.inFlow && !l.keyAllowed then none
  else some ((l.openBlock l.cursor.column l.tokens.length start).push mark)

/-- The mark of an entry of a block sequence. -/
def entryMark (l : Lexer) : Option Lexer := do
  let l ← (← l.blockMark .blockSequenceStart .blockEntry).dropPlace
  some ({ l with keyAllowed := true }.advance 1)

/-- The mark of a key. -/
def keyMark (l : Lexer) : Option Lexer := do
  let l ← (← l.blockMark .blockMappingStart .key).dropPlace
  some ({ l with keyAllowed := !l.inFlow }.advance 1)

/-- The mark of a value. It turns what was read since the last place of a key into a key. -/
def valueMark (l : Lexer) : Option Lexer :=
  match l.places with
  | some p :: outer =>
    let l := (l.insertAt p.tokens .key).openBlock p.column p.tokens .blockMappingStart
    some (({ l with places := none :: outer, keyAllowed := false }.push .value).advance 1)
  | _ => do
    let l ← l.blockMark .blockMappingStart .value
    some ({ l with keyAllowed := !l.inFlow }.advance 1)

/-- A token that may be a key, or the start of one. -/
def keyToken (l : Lexer) (token? : Cursor → Option (Token × Cursor)) : Option Lexer := do
  let l ← l.savePlace
  let (t, c) ← token? l.cursor
  some ({ l with cursor := c, keyAllowed := false }.push t)

/-- A quoted scalar. -/
def quoted (single : Bool) (c : Cursor) : Option (Token × Cursor) :=
  (quotedLines single (c.rest.length + 1) (c.advance 1)).map fun (text, c) =>
    (.scalar (String.ofList text) (if single then .singleQuoted else .doubleQuoted), c)

/-- A plain scalar. One that ends after a line break allows a key. -/
def plain (l : Lexer) : Option Lexer := do
  let l ← l.savePlace
  let (text, broken, c) ←
    plainLines l.inFlow (l.indent + 1).toNat (l.cursor.rest.length + 1) {} l.cursor
  some ({ l with cursor := c, keyAllowed := broken }.push (.scalar (String.ofList text) .plain))

/-- A block scalar. -/
def block (l : Lexer) (folded : Bool) : Option Lexer := do
  let l ← l.dropPlace
  let (text, c) ← blockScalar folded l.indent (l.cursor.advance 1)
  let style := if folded then ScalarStyle.folded else .literal
  some ({ l with cursor := c, keyAllowed := true }.push (.scalar (String.ofList text) style))

/-- Cuts off the next token. -/
def next (l : Lexer) : Option Lexer :=
  let c := l.cursor
  let gapAfter := endsWith isGap c.rest.tail
  match c.rest with
  | [] => none
  | d :: after =>
    if c.column = 0 && d = '%' then l.atTopLevel directive?
    else if c.column = 0 && isIndicator '-' c.rest then
      l.atTopLevel fun c => some (.documentStart, c.advance 3)
    else if c.column = 0 && isIndicator '.' c.rest then
      l.atTopLevel fun c => some (.documentEnd, c.advance 3)
    else if d = '[' then l.openFlow .flowSequenceStart
    else if d = '\x7b' then l.openFlow .flowMappingStart
    else if d = ']' then l.closeFlow .flowSequenceEnd
    else if d = '\x7d' then l.closeFlow .flowMappingEnd
    else if d = ',' then do
      let l ← l.dropPlace
      some (({ l with keyAllowed := true }.push .flowEntry).advance 1)
    else if d = '-' && gapAfter then l.entryMark
    else if d = '?' && (l.inFlow || gapAfter) then l.keyMark
    else if d = ':' && (l.inFlow || gapAfter) then l.valueMark
    else if d = '*' then
      l.keyToken fun c => (anchorName? (c.advance 1)).map fun (name, c) => (.alias name, c)
    else if d = '&' then
      l.keyToken fun c => (anchorName? (c.advance 1)).map fun (name, c) => (.anchor name, c)
    else if d = '!' then l.keyToken (tag? l.inFlow)
    else if d = '|' && !l.inFlow then l.block false
    else if d = '>' && !l.inFlow then l.block true
    else if d = '\'' then l.keyToken (quoted true)
    else if d = '"' then l.keyToken (quoted false)
    else if !(isGap d ||
          ['-', '?', ':', ',', '[', ']', '\x7b', '\x7d', '#', '&', '*', '!', '|', '>',
            '\'', '"', '%', '@', '`'].contains d) ||
        (d = '-' && !(after.head?.any isSpace)) ||
        (!l.inFlow && (d = '?' || d = ':') && !gapAfter) then l.plain
    else none

/-- Cuts the text to its end, where all blocks are closed. -/
def run : Nat → Lexer → Option Lexer
  | 0, _ => none
  | fuel + 1, l => do
    let l ← (skipToToken (l.cursor.rest.length + 1) l).dropStale
    let l := l.closeBlocks l.cursor.column
    if l.cursor.rest.isEmpty then (l.closeBlocks (-1)).dropPlace
    else run fuel (← l.next)

end Lexer

/-- The tokens of a text; none if it has a fault. A byte order mark may stand in front. -/
def tokens? (text : String) : Option (List Token) := do
  let cs := match text.toList with
    | '\ufeff' :: cs => cs
    | cs => cs
  if !cs.all isAllowed then none
  let l ← Lexer.run (cs.length + 1) { cursor := { rest := cs } }
  some l.tokens.reverse

end DocSchema.Yaml
