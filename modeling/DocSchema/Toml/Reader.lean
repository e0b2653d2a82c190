import DocSchema.Toml.Scalar

/-!
# Reading a TOML text

A text is read as a list of statements: entries and the heads of tables. Each value stands alone;
how the statements make one table is not decided here.
-/
namespace DocSchema.Toml

/-- Passes over a comment up to the end of its line; none if a control character stands in it. -/
def skipComment : List Char → Option (List Char)
  | [] => some []
  | c :: rest =>
    if (lineBreak? (c :: rest)).isSome then some (c :: rest)
    else if isTextual c then skipComment rest
    else none

/-- The end of a line: blanks, perhaps a comment, and a line break unless the text ends. -/
def lineEnd? (s : List Char) : Option (List Char) := do
  let s ← match skipBlanks s with
    | '#' :: rest => skipComment rest
    | s => some s
  if s.isEmpty then some [] else lineBreak? s

/-- Passes over blanks, line breaks and comments, each of which a line break ends. -/
def skipLines : Nat → List Char → Option (List Char)
  | 0, s => some s
  | fuel + 1, s =>
    match skipSpace s with
    | '#' :: rest =>
      match skipComment rest with
      | some (c :: rest) => skipLines fuel (c :: rest)
      | _ => none
    | s => some s

/-! ## Keys -/

/-- A character of a key without quotes. -/
def isKeyChar (c : Char) : Bool := c.isAlphanum || c = '_' || c = '-'

/-- One part of a key. -/
def keyPart? : Reading String := fun s =>
  match s with
  | '"' :: _ | '\'' :: _ => shortString? s
  | s =>
    let name := s.takeWhile isKeyChar
    if name.isEmpty then none else some (String.ofList name, s.dropWhile isKeyChar)

/-- The levels that a key or a value may have, less one. -/
def maxNesting : Nat := 79

/-- The parts of a key with dots between them, of which there are at most so many. -/
def keyParts? : Nat → Reading (List String)
  | 0, _ => none
  | levels + 1, s => do
    let (name, s) ← keyPart? (skipBlanks s)
    match skipBlanks s with
    | '.' :: rest =>
      let (names, rest) ← keyParts? levels rest
      some (name :: names, rest)
    | s => some ([name], s)

/-- A key. -/
def key? : Reading (List String) := keyParts? maxNesting

/-! ## Values -/

/-- An entry: a key and what is read after the equals sign. -/
def assignment? (value : Reading Value) : Reading (List String × Value) := fun s => do
  let (key, s) ← key? s
  let (_, s) ← expect '=' s
  let (v, s) ← value (skipBlanks s)
  some ((key, v), s)

/-- The items of an array after its opening bracket or after a comma. -/
def items? (value : Reading Value) : Nat → Reading (List Value)
  | 0, _ => none
  | fuel + 1, s => do
    match ← skipLines s.length s with
    | ']' :: rest => some ([], rest)
    | s =>
      let (v, s) ← value s
      match ← skipLines s.length s with
      | ',' :: rest =>
        let (vs, rest) ← items? value fuel rest
        some (v :: vs, rest)
      | ']' :: rest => some ([v], rest)
      | _ => none

/-- The entries of a table on one line, of which there is at least one. -/
def entries? (value : Reading Value) : Nat → Reading (List (List String × Value))
  | 0, _ => none
  | fuel + 1, s => do
    let (e, s) ← assignment? value s
    match skipBlanks s with
    | ',' :: rest =>
      let (es, rest) ← entries? value fuel rest
      some (e :: es, rest)
    | '\x7d' :: rest => some ([e], rest)
    | _ => none

/-- Builds a table from its entries. -/
abbrev Building := List (List String × Value) → Option (List (String × Value))

/-- A value that may nest a number of levels further. -/
def value? (build : Building) : Nat → Reading Value
  | levels, '[' :: rest =>
    match levels with
    | 0 => none
    | levels + 1 =>
      (items? (value? build levels) rest.length rest).map fun (vs, rest) => (.array vs, rest)
  | levels, '\x7b' :: rest =>
    match levels with
    | 0 => none
    | levels + 1 =>
      match skipBlanks rest with
      | '\x7d' :: rest => some (.table [], rest)
      | rest => do
        let (es, rest) ← entries? (value? build levels) rest.length rest
        let table ← build es
        some (.table table, rest)
  | _, s => scalar? s

/-! ## Statements -/

/-- A statement: an entry of the current table, or the head of a further table or of a further
item of an array of tables. -/
inductive Statement where
  | entry (key : List String) (value : Value)
  | head (key : List String)
  | item (key : List String)

/-- The head of a table after its first bracket. -/
def head? : Reading Statement
  | '[' :: rest => do
    let (key, s) ← key? rest
    match s with
    | ']' :: ']' :: rest => some (.item key, rest)
    | _ => none
  | s => do
    let (key, s) ← key? s
    let (_, s) ← expect ']' s
    some (.head key, s)

/-- A statement. -/
def statement? (build : Building) : Reading Statement
  | '[' :: rest => head? rest
  | s => (assignment? (value? build maxNesting) s).map fun ((key, v), rest) => (.entry key v, rest)

/-- The statements of a text. -/
def statements? (build : Building) : Nat → List Char → Option (List Statement)
  | 0, s => if s.isEmpty then some [] else none
  | fuel + 1, s =>
    match skipBlanks s with
    | [] => some []
    | '#' :: rest => do statements? build fuel (← lineEnd? ('#' :: rest))
    | s =>
      match lineBreak? s with
      | some rest => statements? build fuel rest
      | none => do
        let (first, rest) ← statement? build s
        let more ← statements? build fuel (← lineEnd? rest)
        some (first :: more)

end DocSchema.Toml
