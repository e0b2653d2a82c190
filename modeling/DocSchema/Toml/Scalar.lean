import DocSchema.Toml.Value

/-!
# Reading the scalars of a TOML text

Strings in four forms, numbers, truth values and moments. Fuel bounds the characters of a string.
-/
namespace DocSchema.Toml

/-! ## Blanks -/

/-- A blank within a line. -/
def isBlank (c : Char) : Bool := c = ' ' || c = '\t'

/-- Passes over blanks. -/
def skipBlanks (s : List Char) : List Char := s.dropWhile isBlank

/-- A line break: a line feed, alone or after a carriage return. -/
def lineBreak? : List Char → Option (List Char)
  | '\n' :: rest => some rest
  | '\r' :: '\n' :: rest => some rest
  | _ => none

/-- A character that may stand in a string or a comment: no control character but the tab. -/
def isTextual (c : Char) : Bool := c = '\t' || (0x20 ≤ c.toNat && c.toNat ≠ 0x7F)

/-- Passes over blanks and line breaks. -/
def skipSpace : List Char → List Char
  | '\n' :: rest => skipSpace rest
  | '\r' :: '\n' :: rest => skipSpace rest
  | c :: rest => if isBlank c then skipSpace rest else c :: rest
  | [] => []

/-! ## Strings -/

/-- The character of an escape after its backslash. -/
def escaped? : Reading Char
  | 'b' :: rest => some ('\x08', rest)
  | 't' :: rest => some ('\t', rest)
  | 'n' :: rest => some ('\n', rest)
  | 'f' :: rest => some ('\x0c', rest)
  | 'r' :: rest => some ('\r', rest)
  | '"' :: rest => some ('"', rest)
  | '\\' :: rest => some ('\\', rest)
  | 'u' :: rest => (hexChar? 4 rest).map fun c => (c, rest.drop 4)
  | 'U' :: rest => (hexChar? 8 rest).map fun c => (c, rest.drop 8)
  | _ => none

/-- A string on one line, after its opening quote; one in double quotes has escapes. -/
def lineString? (quote : Char) : Nat → Reading (List Char)
  | 0, _ => none
  | _ + 1, [] => none
  | fuel + 1, c :: rest =>
    if c = quote then some ([], rest)
    else if c = '\\' ∧ quote = '"' then do
      let (d, rest) ← escaped? rest
      let (cs, rest) ← lineString? quote fuel rest
      some (d :: cs, rest)
    else if isTextual c then do
      let (cs, rest) ← lineString? quote fuel rest
      some (c :: cs, rest)
    else none

/-- What follows the quotes that end a string over several lines: up to two more of them belong
to the string. -/
def closing? (quote : Char) (s : List Char) : Option (List Char × List Char) :=
  let run := (s.takeWhile (· = quote)).length
  if run < 3 then none
  else some (List.replicate (min 2 (run - 3)) quote, s.drop (3 + min 2 (run - 3)))

/-- A backslash at the end of a line drops the line break and all space after it. -/
def continued? (s : List Char) : Option (List Char) :=
  (lineBreak? (skipBlanks s)).map skipSpace

/-- A string over several lines, after its opening quotes and the line break after them. -/
def blockString? (quote : Char) : Nat → Reading (List Char)
  | 0, _ => none
  | _ + 1, [] => none
  | fuel + 1, c :: rest =>
    match closing? quote (c :: rest) with
    | some closed => some closed
    | none =>
      if c = '\\' ∧ quote = '"' then
        match continued? rest with
        | some rest => blockString? quote fuel rest
        | none => do
          let (d, rest) ← escaped? rest
          let (cs, rest) ← blockString? quote fuel rest
          some (d :: cs, rest)
      else match lineBreak? (c :: rest) with
        | some rest => do
          let (cs, rest) ← blockString? quote fuel rest
          some ('\n' :: cs, rest)
        | none =>
          if isTextual c then do
            let (cs, rest) ← blockString? quote fuel rest
            some (c :: cs, rest)
          else none

/-- A string on one line. -/
def shortString? : Reading String := fun s =>
  match s with
  | c :: rest =>
    if c = '"' ∨ c = '\'' then
      (lineString? c s.length rest).map fun (cs, rest) => (String.ofList cs, rest)
    else none
  | [] => none

/-- A string in any form. -/
def string? : Reading String := fun s =>
  match s with
  | a :: b :: c :: rest =>
    if a = b ∧ b = c ∧ (a = '"' ∨ a = '\'') then
      (blockString? a s.length ((lineBreak? rest).getD rest)).map fun (cs, rest) =>
        (String.ofList cs, rest)
    else shortString? s
  | s => shortString? s

/-! ## Numbers -/

/-- Further digits, where single underscores may stand between two digits. -/
def moreDigits? (isDigit : Char → Bool) : Reading (List Char)
  | '_' :: c :: rest =>
    if isDigit c then (moreDigits? isDigit rest).map fun (cs, r) => (c :: cs, r) else none
  | c :: rest =>
    if c = '_' then none
    else if isDigit c then (moreDigits? isDigit rest).map fun (cs, r) => (c :: cs, r)
    else some ([], c :: rest)
  | [] => some ([], [])

/-- Digits, where single underscores may stand between two digits. -/
def digitRun? (isDigit : Char → Bool) : Reading (List Char)
  | c :: rest =>
    if isDigit c then (moreDigits? isDigit rest).map fun (cs, r) => (c :: cs, r) else none
  | [] => none

/-- The digits of a decimal integer; a zero stands alone. -/
def wholePart? : Reading (List Char)
  | '0' :: rest => some (['0'], rest)
  | s => digitRun? Char.isDigit s

/-- An exponent with its sign. -/
def exponent? : Reading Int
  | c :: rest =>
    if c = 'e' ∨ c = 'E' then do
      let (negative, rest) := match rest with
        | '-' :: rest => (true, rest)
        | '+' :: rest => (false, rest)
        | rest => (false, rest)
      let (ds, rest) ← digitRun? Char.isDigit rest
      let n ← numeral? 10 ds
      some (if negative then -(n : Int) else n, rest)
    else none
  | [] => none

/-- A decimal number as a floating-point value. A positive one may not be too large. -/
def decimal? (negative : Bool) (digits : List Char) (power : Int) : Option Value := do
  let n ← numeral? 10 digits
  match Binary64.ofDecimal negative n power with
  | some x => some (.real (.finite x))
  | none => if negative then some (.real (.infinite true)) else none

/-- An integer of 64 bits. -/
def integer? (n : Int) : Option Value :=
  if Int64.minValue.toInt ≤ n ∧ n ≤ Int64.maxValue.toInt then some (.integer n) else none

/-- An unsigned integer in a base other than ten, after the letter of the base. -/
def based? (base : Nat) (s : List Char) : Option (Value × List Char) := do
  let (ds, rest) ← digitRun? (fun c => (hexValue? c).any (· < base)) s
  let v ← integer? (← numeral? base ds)
  some (v, rest)

/-- A decimal number after its sign: an integer, or a floating-point number if it has a fraction
or an exponent. -/
def unsigned? (negative : Bool) (s : List Char) : Option (Value × List Char) := do
  let (whole, rest) ← wholePart? s
  match rest with
  | '.' :: rest =>
    let (fraction, rest) ← digitRun? Char.isDigit rest
    let (power, rest) := (exponent? rest).getD (0, rest)
    let v ← decimal? negative (whole ++ fraction) (power - fraction.length)
    some (v, rest)
  | rest =>
    match exponent? rest with
    | some (power, rest) => (decimal? negative whole power).map fun v => (v, rest)
    | none =>
      let n ← numeral? 10 whole
      let v ← integer? (if negative then -(n : Int) else n)
      some (v, rest)

/-- A word that stands for a value. -/
def word? (value : Value) (word : List Char) : Reading Value := fun s =>
  if word.isPrefixOf s then some (value, s.drop word.length) else none

/-- A number after its sign. -/
def signed? (negative : Bool) : Reading Value
  | 'i' :: rest => word? (.real (.infinite negative)) ['n', 'f'] rest
  | 'n' :: rest => word? (.real .notANumber) ['a', 'n'] rest
  | s => unsigned? negative s

/-- A number. -/
def number? : Reading Value
  | '-' :: rest => signed? true rest
  | '+' :: rest => signed? false rest
  | '0' :: 'x' :: rest => based? 16 rest
  | '0' :: 'o' :: rest => based? 8 rest
  | '0' :: 'b' :: rest => based? 2 rest
  | s => signed? false s

/-- A value without parts. -/
def scalar? : Reading Value := fun s =>
  match s with
  | '"' :: _ | '\'' :: _ => (string? s).map fun (t, rest) => (.text t, rest)
  | 't' :: _ => word? (.flag true) ['t', 'r', 'u', 'e'] s
  | 'f' :: _ => word? (.flag false) ['f', 'a', 'l', 's', 'e'] s
  | s =>
    match moment? s with
    | some (m, rest) => some (.moment m, rest)
    | none => number? s

end DocSchema.Toml
