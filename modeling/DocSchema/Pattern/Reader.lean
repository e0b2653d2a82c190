import DocSchema.Pattern.Expr
import DocSchema.Text.Blank
import DocSchema.Text.Digit

/-!
# Reading the text of a regular expression

The reader builds the expression as it goes: the flags in force decide what each part means, hold
to the end of their group, and come back as they were when the group closes. A text with any fault
has no expression; faults are not told apart.
-/
namespace DocSchema.Pattern

/-- The flags that decide what the parts of a pattern mean. -/
structure Flags where
  /-- Letters match in either case. -/
  caseless : Bool := false
  /-- Lines have a start and an end of their own. -/
  multiline : Bool := false
  /-- A dot matches the end of a line too. -/
  dotAll : Bool := false
  /-- Character classes reach beyond ASCII. -/
  unicode : Bool := true
  /-- A carriage return ends a line too. -/
  carriage : Bool := false
  /-- Blanks and comments in the pattern mean nothing. -/
  verbose : Bool := false
deriving DecidableEq, Repr

/-- What reading a pattern goes on with. -/
structure State where
  rest : List Char
  flags : Flags := {}
  /-- The group names used so far. -/
  names : List String := []

/-- A step of reading, which may fail. -/
abbrev Reading := StateT State Option

/-- A part that was read. -/
structure Part where
  expr : Expr
  /-- How deeply groups, repetitions, sequences and classes nest in the part. -/
  depth : Nat := 0
  /-- A repetition may follow. -/
  repeatable : Bool := true

/-- The deepest nesting that is accepted. -/
def maxDepth : Nat := 250

/-! ## Characters of the pattern -/

/-- The text from the next character on that means something: blanks and comments are dropped. -/
def dropComments (comment : Bool) : List Char → List Char
  | [] => []
  | c :: rest =>
    if comment then dropComments (c ≠ '\n') rest
    else if isBlank c then dropComments false rest
    else if c = '#' then dropComments true rest
    else c :: rest

/-- Refuses the pattern. -/
def refuse {α : Type} : Reading α := fun _ => none

/-- Refuses the pattern unless a condition holds. -/
def require (condition : Bool) : Reading Unit := if condition then pure () else refuse

/-- The next character, which is not consumed. -/
def peek? : Reading (Option Char) := do return (← get).rest.head?

/-- The next character; a pattern that ends here is refused. -/
def peek : Reading Char := do
  match ← peek? with
  | some c => pure c
  | none => refuse

/-- Consumes a character. -/
def bump : Reading Unit := modify fun s => { s with rest := s.rest.tail }

/-- Consumes what means nothing. -/
def bumpBlanks : Reading Unit :=
  modify fun s => if s.flags.verbose then { s with rest := dropComments false s.rest } else s

/-- Consumes a character and what means nothing after it. -/
def bumpOn : Reading Unit := do bump; bumpBlanks

/-- The character after the next one. Where blanks mean nothing they are left out, and so is the
mark of a comment, but not the comment itself. -/
def peekBeyond? : Reading (Option Char) := do
  let s ← get
  if !s.flags.verbose then return s.rest.tail.head?
  match s.rest.tail.dropWhile isBlank with
  | '#' :: rest => return (rest.dropWhile isBlank).head?
  | rest => return rest.head?

/-- Consumes a text if it comes next. -/
def bumpIf (text : List Char) : Reading Bool := do
  let s ← get
  if text.isPrefixOf s.rest then
    set { s with rest := s.rest.drop text.length }
    return true
  else return false

/-! ## Sets of characters -/

/-- A set closed under case if the flags say so. -/
def folded (s : CharSet) : Reading CharSet := do
  let flags := (← get).flags
  return if !flags.caseless then s else if flags.unicode then s.foldCase else s.foldAsciiCase

/-- The complement of a set if it is negated. A class of ASCII characters has no complement, which
would not be ASCII. -/
def negatedIf (negated : Bool) (s : CharSet) : Reading CharSet := do
  if !negated then return s
  require (← get).flags.unicode
  return s.compl

/-- The set of a class of ASCII characters. -/
def asciiClass? (name : String) : Option CharSet :=
  let digit := CharSet.range 0x30 0x39
  let upper := CharSet.range 0x41 0x5A
  let lower := CharSet.range 0x61 0x7A
  match name with
  | "alnum" => some (CharSet.unions [digit, upper, lower])
  | "alpha" => some (upper.union lower)
  | "ascii" => some (CharSet.range 0 0x7F)
  | "blank" => some ((CharSet.single '\t').union (CharSet.single ' '))
  | "cntrl" => some ((CharSet.range 0 0x1F).union (CharSet.range 0x7F 0x7F))
  | "digit" => some digit
  | "graph" => some (CharSet.range 0x21 0x7E)
  | "lower" => some lower
  | "print" => some (CharSet.range 0x20 0x7E)
  | "punct" => some (CharSet.unions
      [CharSet.range 0x21 0x2F, CharSet.range 0x3A 0x40, CharSet.range 0x5B 0x60,
        CharSet.range 0x7B 0x7E])
  | "space" => some ((CharSet.range 9 13).union (CharSet.single ' '))
  | "upper" => some upper
  | "word" => some CharSet.asciiWordChars
  | "xdigit" => some (CharSet.unions [digit, CharSet.range 0x41 0x46, CharSet.range 0x61 0x66])
  | _ => none

/-- The set of a letter class such as the digits, by its lower-case letter. -/
def letterClass (letter : Char) : Reading CharSet := do
  let unicode := (← get).flags.unicode
  return match letter with
    | 'd' => if unicode then CharSet.digits else CharSet.range 0x30 0x39
    | 's' => if unicode then CharSet.blanks else (CharSet.range 9 13).union (CharSet.single ' ')
    | _ => if unicode then CharSet.wordChars else CharSet.asciiWordChars

/-- The characters up to a closing brace, which is consumed. -/
def untilBrace : Nat → Reading (List Char)
  | 0 => refuse
  | fuel + 1 => do
    let c ← peek
    if c = '\x7d' then
      bump
      return []
    bumpOn
    return c :: (← untilBrace fuel)

/-- Splits a text at the first occurrence of a separator. -/
def splitAt? (separator : List Char) : List Char → Option (List Char × List Char)
  | [] => none
  | c :: cs =>
    if separator.isPrefixOf (c :: cs) then some ([], (c :: cs).drop separator.length)
    else (splitAt? separator cs).map fun (before, after) => (c :: before, after)

/-- The set of a property in braces: a name, or a name and a value. -/
def property? (text : List Char) : Option CharSet :=
  let valued (parts : List Char × List Char) : Option CharSet :=
    CharSet.valued? (String.ofList parts.1) (String.ofList parts.2)
  match splitAt? ['!', '='] text, splitAt? [':'] text, splitAt? ['='] text with
  | some parts, _, _ => valued parts
  | none, some parts, _ => valued parts
  | none, none, some parts => valued parts
  | none, none, none => CharSet.named? (String.ofList text)

/-- A property class, from its letter on. -/
def propertyClass (negated : Bool) : Reading CharSet := do
  bumpOn
  let c ← peek
  let text ←
    if c = '\x7b' then do
      bumpOn
      untilBrace ((← get).rest.length + 1)
    else do
      require (c ≠ '\\')
      bumpOn
      pure [c]
  require (← get).flags.unicode
  match property? text with
  | some s => negatedIf negated (← folded s)
  | none => refuse

/-! ## Escapes -/

/-- What an escape, or a character that stands for itself, means. -/
inductive Atom where
  | char (c : Char)
  | set (s : CharSet)
  | look (l : Look)

/-- A code point as a character, if it is one. -/
def charAt (n : Nat) : Reading Char :=
  if h : n.isValidChar then pure (Char.ofNatAux n h) else refuse

/-- A number of hexadecimal digits. -/
def hexDigits (sum : Nat) : Nat → Reading Nat
  | 0 => pure sum
  | count + 1 => do
    match hexValue? (← peek) with
    | some d =>
      bumpOn
      hexDigits (16 * sum + d) count
    | none => refuse

/-- The code point of a hexadecimal escape, from its letter on. Without Unicode, two digits stand
for one byte, which has to be ASCII. -/
def hexEscape (letter : Char) : Reading Char := do
  bumpOn
  if (← peek) = '\x7b' then
    bumpOn
    let digits ← untilBrace ((← get).rest.length + 1)
    bumpBlanks
    require (!digits.isEmpty && digits.all fun c => (hexValue? c).isSome)
    charAt (digits.foldl (fun n c => 16 * n + (hexValue? c).getD 0) 0)
  else
    let n ← hexDigits 0 (if letter = 'x' then 2 else if letter = 'u' then 4 else 8)
    require (letter ≠ 'x' || n < 128 || (← get).flags.unicode)
    charAt n

/-- Characters of the notation, which an escape turns into themselves. -/
def isMeta (c : Char) : Bool := "\\.+*?()|[]\x7b\x7d^$#&-~".toList.contains c

/-- An escape turns every ASCII character into itself that could not become an escape of its own. -/
def isEscapable (c : Char) : Bool :=
  isMeta c || (c.toNat < 128 && !c.isAlphanum && c ≠ '<' && c ≠ '>')

/-- The characters that words consist of. -/
def wordSet : Reading CharSet := letterClass 'w'

/-- The name in braces of a kind of word boundary. -/
def boundaryName : Nat → Reading (List Char)
  | 0 => refuse
  | fuel + 1 => do
    let c ← peek
    if c.isAlpha || c = '-' then
      bumpOn
      return c :: (← boundaryName fuel)
    require (c = '\x7d')
    bump
    return []

/-- A word boundary whose letter was read. Braces with a name after it choose its kind; other braces
are left for a repetition. -/
def boundary : Reading Look := do
  let words ← wordSet
  let start ← get
  if (← peek?) ≠ some '\x7b' then return .boundary words
  bumpOn
  let c ← peek
  if !(c.isAlpha || c = '-') then
    set start
    return .boundary words
  let name ← boundaryName ((← get).rest.length + 1)
  match String.ofList name with
  | "start" => return .wordStart words
  | "end" => return .wordEnd words
  | "start-half" => return .beforeWord words
  | "end-half" => return .afterWord words
  | _ => refuse

/-- An escape, from its backslash on. -/
def escape : Reading Atom := do
  bump
  let c ← peek
  let char (c : Char) : Reading Atom := do
    bump
    return .char c
  let look (l : Look) : Reading Atom := do
    bump
    return .look l
  if c = 'x' || c = 'u' || c = 'U' then return .char (← hexEscape c)
  else if c = 'p' || c = 'P' then return .set (← propertyClass (c = 'P'))
  else if c = 'd' || c = 's' || c = 'w' then
    bump
    return .set (← letterClass c)
  else if c = 'D' || c = 'S' || c = 'W' then
    bump
    return .set (← negatedIf true (← letterClass c.toLower))
  else if isEscapable c then char c
  else match c with
    | 'a' => char '\x07'
    | 'f' => char '\x0c'
    | 't' => char '\t'
    | 'n' => char '\n'
    | 'r' => char '\r'
    | 'v' => char '\x0b'
    | 'A' => look .textStart
    | 'z' => look .textEnd
    | 'b' =>
      bump
      return .look (← boundary)
    | 'B' => look (.noBoundary (← wordSet))
    | '<' => look (.wordStart (← wordSet))
    | '>' => look (.wordEnd (← wordSet))
    | _ => refuse

/-! ## Classes in brackets -/

/-- How two sets in brackets are combined. -/
inductive SetOp where
  | inter | diff | symmDiff

/-- The combination of two sets. -/
def SetOp.apply : SetOp → CharSet → CharSet → CharSet
  | inter => CharSet.inter
  | diff => CharSet.diff
  | symmDiff => CharSet.symmDiff

/-- A set in brackets, and how deeply sets nest in it. -/
structure SetPart where
  set : CharSet
  depth : Nat

/-- A class of ASCII characters in its own brackets. What only looks like one consumes nothing. -/
def asciiClass : Reading (Option CharSet) := do
  let start ← get
  let inner := start.rest.drop 2
  let negated := inner.head? = some '^'
  let inner := if negated then inner.tail else inner
  let name := inner.takeWhile (· ≠ ':')
  let after := inner.drop name.length
  match asciiClass? (String.ofList name) with
  | some s =>
    if [':', ']'].isPrefixOf after && ['[', ':'].isPrefixOf start.rest then
      set { start with rest := after.drop 2 }
      return some (← negatedIf negated (← folded s))
    else return none
  | none => return none

/-- One end of a range in brackets, or a set. -/
def setAtom : Reading Atom := do
  let c ← peek
  if c = '\\' then escape
  else
    bump
    return .char c

/-- A character of a class as a set. Without Unicode a class holds ASCII characters only. -/
def charSet (c : Char) (last : Char) : Reading CharSet := do
  require ((← get).flags.unicode || (c.toNat < 128 && last.toNat < 128))
  return CharSet.range c.toNat last.toNat

/-- A character, a range of characters or an escaped set in brackets. -/
def setRange : Reading CharSet := do
  let first ← setAtom
  bumpBlanks
  let next ← peek
  let beyond ← peekBeyond?
  if next ≠ '-' || beyond = some ']' || beyond = some '-' then
    match first with
    | .char c => charSet c c
    | .set s => return s
    | .look _ => refuse
  else
    bumpOn
    match first, ← setAtom with
    | .char c, .char d =>
      require (c ≤ d)
      charSet c d
    | _, _ => refuse

/-- The sets read so far between two brackets: a combination that waits for its right side, and the
union that is being read. -/
structure Pending where
  waiting : Option (SetPart × SetOp) := none
  union : CharSet := CharSet.empty
  /-- The number of items of the union, and how deeply they nest. -/
  count : Nat := 0
  depth : Nat := 0

/-- Adds an item to the union. -/
def Pending.add (p : Pending) (s : CharSet) (depth : Nat := 0) : Pending :=
  { p with union := p.union.union s, count := p.count + 1, depth := max p.depth depth }

/-- Completes the combination that waits with the union that was read. -/
def Pending.close (p : Pending) : Reading SetPart := do
  let depth := if p.count ≤ 1 then p.depth else p.depth + 1
  match p.waiting with
  | none => return ⟨p.union, depth⟩
  | some (left, op) =>
    return ⟨op.apply (← folded left.set) (← folded p.union), max left.depth depth + 1⟩

/-- The hyphens at the start of a class, which stand for themselves. -/
def leadingHyphens : Nat → Pending → Reading Pending
  | 0, p => return p
  | fuel + 1, p => do
    if (← peek) = '-' then
      bumpOn
      let _ ← peek
      leadingHyphens fuel (p.add (CharSet.single '-'))
    else return p

mutual

/-- A class in brackets, from its opening bracket on. -/
def bracketed : Nat → Reading SetPart
  | 0 => refuse
  | fuel + 1 => do
    bumpOn
    let negated := (← peek) = '^'
    if negated then bumpOn
    let _ ← peek
    let p ← leadingHyphens (← get).rest.length {}
    let p ← if p.count = 0 && (← peek) = ']' then do
        bumpOn
        let _ ← peek
        pure (p.add (CharSet.single ']'))
      else pure p
    let part ← setItems fuel p
    let s ← negatedIf negated (← folded part.set)
    return ⟨s, part.depth + 1⟩

/-- The items of a class up to its closing bracket, which is consumed. -/
def setItems : Nat → Pending → Reading SetPart
  | 0, _ => refuse
  | fuel + 1, p => do
    bumpBlanks
    let combine (op : SetOp) : Reading SetPart := do
      bump
      bump
      setItems fuel { waiting := some (← p.close, op) }
    let c ← peek
    let twice := (← get).rest.tail.head? = some c
    if c = '[' then
      match ← asciiClass with
      | some s => setItems fuel (p.add s)
      | none =>
        let part ← bracketed fuel
        setItems fuel (p.add part.set part.depth)
    else if c = ']' then
      bump
      p.close
    else if c = '&' && twice then combine .inter
    else if c = '-' && twice then combine .diff
    else if c = '~' && twice then combine .symmDiff
    else setItems fuel (p.add (← setRange))

end

/-! ## Groups and repetitions -/

/-- Decimal digits, from the value of those before them on. -/
def decimalDigits (sum : Nat) : Nat → Reading Nat
  | 0 => refuse
  | fuel + 1 => do
    match ← peek? with
    | some c =>
      if c.isDigit then
        bumpOn
        decimalDigits (10 * sum + (c.toNat - '0'.toNat)) fuel
      else return sum
    | none => return sum

/-- A decimal number between blanks; it has to fit 32 bits. -/
def decimal : Reading Nat := do
  modify fun s => { s with rest := s.rest.dropWhile isBlank }
  require (← peek).isDigit
  let n ← decimalDigits 0 ((← get).rest.length + 1)
  modify fun s => { s with rest := s.rest.dropWhile isBlank }
  require (n < UInt32.size)
  return n

/-- The bounds of a counted repetition, from the opening brace on. -/
def counts : Reading (Nat × Option Nat) := do
  bumpOn
  let least ← decimal
  let most ←
    if (← peek) = ',' then do
      bumpOn
      if (← peek) = '\x7d' then pure none else pure (some (← decimal))
    else pure (some least)
  require ((← peek) = '\x7d')
  require (most.all (least ≤ ·))
  return (least, most)

/-- A repetition of a part. A part that matches only the empty text need not be repeated. -/
def Part.times (p : Part) (least : Nat) (most : Option Nat) : Part :=
  let expr := if p.expr.zeroWidth then
      Expr.times p.expr (min least 1) (some (min (most.getD 1) 1))
    else Expr.times p.expr least most
  { expr := expr, depth := p.depth + 1 }

/-- Consumes the mark of a repetition that prefers few matches. -/
def bumpLazy : Reading Unit := do
  if (← peek?) = some '?' then bump

/-- A capital name character: the first one is a letter or an underscore. -/
def isNameChar (first : Bool) (c : Char) : Bool :=
  c = '_' || CharSet.letters.has c ||
    (!first && (c = '.' || c = '[' || c = ']' ||
      ((CharSet.lookup? CharSet.categoryTable "nd").any (·.has c)) ||
      ((CharSet.lookup? CharSet.categoryTable "nl").any (·.has c)) ||
      ((CharSet.lookup? CharSet.categoryTable "no").any (·.has c))))

/-- The name of a group up to its closing angle bracket; a name is used once. -/
def groupName : Reading Unit := do
  let s ← get
  let name := s.rest.takeWhile (· ≠ '>')
  require (s.rest.length > name.length && !name.isEmpty)
  require (name.head?.all (isNameChar true) && name.tail.all (isNameChar false))
  require !(s.names.contains (String.ofList name))
  set { s with rest := s.rest.drop (name.length + 1), names := String.ofList name :: s.names }

/-- Turns a flag on or off; a flag of matching order means nothing here. -/
def setFlag (flags : Flags) (flag : Char) (on : Bool) : Option Flags :=
  match flag with
  | 'i' => some { flags with caseless := on }
  | 'm' => some { flags with multiline := on }
  | 's' => some { flags with dotAll := on }
  | 'U' => some flags
  | 'u' => some { flags with unicode := on }
  | 'R' => some { flags with carriage := on }
  | 'x' => some { flags with verbose := on }
  | _ => none

/-- Flags up to a colon or a closing parenthesis, which is left: the flags that result, and whether
there were any. Each flag, and the sign that turns flags off, occurs once. -/
def flagItems (seen : List Char) (flags : Flags) : Nat → Reading (Flags × Bool)
  | 0 => refuse
  | fuel + 1 => do
    let c ← peek
    if c = ':' || c = ')' then
      require (seen.head? ≠ some '-')
      return (flags, !seen.isEmpty)
    require !(seen.contains c)
    bump
    if c = '-' then flagItems (c :: seen) flags fuel
    else match setFlag flags c !(seen.contains '-') with
      | some flags => flagItems (c :: seen) flags fuel
      | none => refuse

/-- A sequence of parts, given last part first. -/
def Part.sequence : List Part → Part
  | [] => { expr := .empty }
  | [p] => p
  | p :: ps =>
    let expr := ps.foldl (fun e q => Expr.seq q.expr e) p.expr
    { expr := expr, depth := (p :: ps).foldl (fun d q => max d q.depth) 0 + 1 }

/-- Alternatives, given last one first. -/
def Part.choice : List Part → Part
  | [] => { expr := .empty }
  | [p] => p
  | p :: ps =>
    let expr := ps.foldl (fun e q => Expr.alt q.expr e) p.expr
    { expr := expr, depth := (p :: ps).foldl (fun d q => max d q.depth) 0 + 1 }

/-- A character that stands for itself. -/
def literal (c : Char) : Reading Part := do return { expr := .one (← folded (CharSet.single c)) }

/-- What a dot matches: any character, but the end of a line only if the flags say so. -/
def dot : Reading Part := do
  let flags := (← get).flags
  require flags.unicode
  let ends := if flags.dotAll then CharSet.empty
    else if flags.carriage then CharSet.ofList ['\r', '\n']
    else CharSet.single '\n'
  return { expr := .one ends.compl }

/-- An escape, a dot, a condition on the place or a character. -/
def primitive : Reading Part := do
  let c ← peek
  let flags := (← get).flags
  match c with
  | '\\' =>
    match ← escape with
    | .char c => literal c
    | .set s => return { expr := .one s }
    | .look l => return { expr := .look l }
  | '.' =>
    bump
    dot
  | '^' =>
    bump
    return { expr := .look (if flags.multiline then .lineStart flags.carriage else .textStart) }
  | '$' =>
    bump
    return { expr := .look (if flags.multiline then .lineEnd flags.carriage else .textEnd) }
  | c =>
    bump
    literal c

/-- The last part that was read, if it may be repeated. -/
def repeatable : List Part → Reading (Part × List Part)
  | p :: ps => if p.repeatable then pure (p, ps) else refuse
  | [] => refuse

mutual

/-- A group whose parenthesis was read, or flags for the rest of the group around it. -/
def group : Nat → Reading Part
  | 0 => refuse
  | fuel + 1 => do
    bumpBlanks
    let outer := (← get).flags
    let inside : Reading Part := do
      let part ← body fuel [] []
      require ((← peek) = ')')
      bump
      modify fun s => { s with flags := outer }
      return { expr := part.expr, depth := part.depth + 1 }
    let rest := (← get).rest
    require !(['?', '='].isPrefixOf rest || ['?', '!'].isPrefixOf rest ||
      ['?', '<', '='].isPrefixOf rest || ['?', '<', '!'].isPrefixOf rest)
    if ← bumpIf ['?', 'P', '<'] then
      groupName
      inside
    else if ← bumpIf ['?', '<'] then
      groupName
      inside
    else if ← bumpIf ['?'] then
      let (flags, any) ← flagItems [] outer ((← get).rest.length + 1)
      let close ← peek
      bump
      modify fun s => { s with flags := flags }
      if close = ')' then
        require any
        return { expr := .empty, repeatable := false }
      else inside
    else inside

/-- Parts up to the end of a group or of the pattern, which is left: the parts of the current
alternative and the alternatives before it, last first. -/
def body : Nat → List Part → List Part → Reading Part
  | 0, _, _ => refuse
  | fuel + 1, parts, before => do
    bumpBlanks
    let again (p : Part) (parts : List Part) : Reading Part := body fuel (p :: parts) before
    let simple (least : Nat) (most : Option Nat) : Reading Part := do
      let (p, parts) ← repeatable parts
      bump
      bumpLazy
      again (p.times least most) parts
    match ← peek? with
    | none | some ')' => return Part.choice (Part.sequence parts :: before)
    | some '|' =>
      bump
      body fuel [] (Part.sequence parts :: before)
    | some '(' =>
      bump
      again (← group fuel) parts
    | some '[' =>
      let part ← bracketed fuel
      again { expr := .one part.set, depth := part.depth } parts
    | some '?' => simple 0 (some 1)
    | some '*' => simple 0 none
    | some '+' => simple 1 none
    | some '\x7b' =>
      let (p, parts) ← repeatable parts
      let (least, most) ← counts
      bumpOn
      bumpLazy
      again (p.times least most) parts
    | some _ => again (← primitive) parts

end

/-- The expression of a pattern; none if the pattern has a fault, nests too deeply or is too
large. -/
def read? (text : String) : Option Expr := do
  let cs := text.toList
  let (part, state) ← (body (2 * cs.length + 2) [] []).run { rest := cs }
  if state.rest.isEmpty ∧ part.depth ≤ maxDepth ∧ part.expr.weight ≤ Expr.maxWeight then
    some part.expr
  else none

end DocSchema.Pattern
