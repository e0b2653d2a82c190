import DocSchema.Json
import DocSchema.Text.Digit

/-!
# Reading JSON text

The reader works on the characters that are left and stops at the first fault, which it reports
with the line and the column, counted in bytes, where reading stopped.

The parts are usable on their own: `Reader.list` and `Reader.record` read an array and an object
whose children are read by any reader, and `Reader.skip` passes over a value without judging its
numbers and surrogates.
-/
namespace DocSchema.Json

/-- What is wrong at the place where reading stopped. -/
inductive Fault where
  | endInValue | endInList | endInObject | endInString
  | expectedValue | expectedWord | expectedColon | expectedListEnd | expectedObjectEnd
  | trailingComma | keyNotString | invalidNumber | numberOutOfRange
  | invalidEscape | loneSurrogate | endOfEscape | controlCharacter
  | nestedTooDeep | trailingText
deriving DecidableEq, Repr

/-- The wording of a fault. -/
def Fault.message : Fault → String
  | .endInValue => "EOF while parsing a value"
  | .endInList => "EOF while parsing a list"
  | .endInObject => "EOF while parsing an object"
  | .endInString => "EOF while parsing a string"
  | .expectedValue => "expected value"
  | .expectedWord => "expected ident"
  | .expectedColon => "expected `:`"
  | .expectedListEnd => "expected `,` or `]`"
  | .expectedObjectEnd => "expected `,` or `\x7d`"
  | .trailingComma => "trailing comma"
  | .keyNotString => "key must be a string"
  | .invalidNumber => "invalid number"
  | .numberOutOfRange => "number out of range"
  | .invalidEscape => "invalid escape"
  | .loneSurrogate => "lone leading surrogate in hex escape"
  | .endOfEscape => "unexpected end of hex escape"
  | .controlCharacter => "control character (\\u0000-\\u001F) found while parsing a string"
  | .nestedTooDeep => "recursion limit exceeded"
  | .trailingText => "trailing characters"

/-- A fault, the text left at the last character boundary before it, and the number of bytes of that
text that were passed over. -/
structure Stop where
  fault : Fault
  rest : List Char
  past : Nat

/-- A fault and its place: lines from one, columns in bytes. -/
structure TextError where
  fault : Fault
  line : Nat
  column : Nat
deriving DecidableEq, Repr

/-- The fault and its place in words. -/
def TextError.message (e : TextError) : String :=
  s!"{e.fault.message} at line {e.line} column {e.column}"

namespace Reader

/-- A reader takes a value from the front of a text and returns the rest. -/
abbrev Result (α : Type) := Except Stop (α × List Char)

/-- Stops before the next character, which the place counts as read. -/
def atNext {α : Type} (fault : Fault) (rest : List Char) : Result α := .error ⟨fault, rest, 1⟩

/-- Stops where the rest begins. -/
def atRest {α : Type} (fault : Fault) (rest : List Char) : Result α := .error ⟨fault, rest, 0⟩

/-- The four blanks that may stand between tokens. -/
def isBlank (c : Char) : Bool := c = ' ' || c = '\n' || c = '\t' || c = '\r'

/-- The text from the next token on. -/
def skipBlanks (s : List Char) : List Char := s.dropWhile isBlank

/-! ## Words and numbers -/

/-- The rest of a word whose first letter was read. -/
def word {α : Type} (value : α) : List Char → List Char → Result α
  | [], s => .ok (value, s)
  | _ :: _, [] => atRest .endInValue []
  | w :: ws, c :: s => if c = w then word value ws s else .error ⟨.expectedWord, c :: s, 1⟩

/-- The value of a decimal digit. -/
def digitValue (c : Char) : Nat := c.toNat - '0'.toNat

/-- Appends digits to a number as long as it stays below `2 ^ 64`; the digits from the first that
does not fit are left over. -/
def accumulate (sum : Nat) : List Char → Nat × List Char
  | [] => (sum, [])
  | d :: ds =>
    if 10 * sum + digitValue d < UInt64.size then accumulate (10 * sum + digitValue d) ds
    else (sum, d :: ds)

/-- Multiplies or divides by a power of ten in steps of at most `10 ^ 308`, rounding after each;
none if the product is not finite. -/
def scaleBy (x : Binary64) (power : Int) : Nat → Option Binary64
  | 0 => some x
  | fuel + 1 =>
    if power.natAbs ≤ 308 then do
      let factor ← Binary64.ofDecimal false 1 power.natAbs
      if 0 ≤ power then x.mul factor else x.div factor
    else if x.isZero then some x
    else if 0 ≤ power then none
    else do
      let factor ← Binary64.ofDecimal false 1 308
      scaleBy (← x.div factor) (power + 308) fuel

/-- The floating-point number of a significand and a power of ten. -/
def real (negative : Bool) (sum : Nat) (power : Int) (rest : List Char) : Result Number :=
  let start := (Binary64.ofInt sum).getD (Binary64.zero false)
  match scaleBy start power 4 with
  | some x => .ok (.real (if negative then x.neg else x), rest)
  | none => atRest .numberOutOfRange rest

/-- The greatest exponent that is read in full. -/
def maxExponent : Nat := 2147483647

/-- The number of leading digits after which the exponent exceeds `maxExponent`, if it does. -/
def overflowAt? (sum : Nat) (count : Nat) : List Char → Option Nat
  | [] => none
  | d :: ds =>
    let next := 10 * sum + digitValue d
    if maxExponent < next then some (count + 1) else overflowAt? next (count + 1) ds

/-- The part after the letter of an exponent. -/
def exponent (negative : Bool) (sum : Nat) (power : Int) (s : List Char) : Result Number :=
  let (down, s) : Bool × List Char := match s with
    | '+' :: s => (false, s)
    | '-' :: s => (true, s)
    | s => (false, s)
  match s with
  | [] => atRest .endInValue []
  | c :: s' =>
    if !c.isDigit then .error ⟨.invalidNumber, c :: s', 1⟩
    else
      let digits := s.takeWhile Char.isDigit
      let rest := s.dropWhile Char.isDigit
      match overflowAt? 0 0 digits with
      | some read =>
        if sum ≠ 0 ∧ ¬ down then atRest .numberOutOfRange (s.drop read)
        else .ok (.real (Binary64.zero negative), rest)
      | none =>
        let n : Int := digits.foldl (fun n d => 10 * n + digitValue d) 0
        real negative sum (if down then power - n else power + n) rest

/-- What follows the digits of a number that is not an integer. -/
def afterDigits (negative : Bool) (sum : Nat) (power : Int) : List Char → Result Number
  | c :: rest =>
    if c = 'e' ∨ c = 'E' then exponent negative sum power rest
    else real negative sum power (c :: rest)
  | [] => real negative sum power []

/-- The part after a decimal point. -/
def fraction (negative : Bool) (sum : Nat) (power : Int) (s : List Char) : Result Number :=
  let digits := s.takeWhile Char.isDigit
  let rest := s.dropWhile Char.isDigit
  if digits.isEmpty then
    if rest.isEmpty then atRest .endInValue [] else atNext .invalidNumber rest
  else
    let (total, left) := accumulate sum digits
    afterDigits negative total (power - (digits.length - left.length : Nat)) rest

/-- The number of an integer without fraction and exponent: one beyond 64 bits, and a negative zero,
is a floating-point number. -/
def integer (negative : Bool) (sum : Nat) : Number :=
  if negative then
    if sum ≠ 0 ∧ sum ≤ Nat.pow 2 63 then .int (-(sum : Int))
    else .real ((Binary64.ofInt (-(sum : Int))).map (fun x => { x with negative := true })
      |>.getD (Binary64.zero true))
  else .int sum

/-- The part after the sign of a number. -/
def unsigned (negative : Bool) (s : List Char) : Result Number :=
  match s with
  | [] => atRest .endInValue []
  | c :: s' =>
    if !c.isDigit then .error ⟨.invalidNumber, c :: s', 1⟩
    else
      let digits := if c = '0' then [c] else s.takeWhile Char.isDigit
      let rest := s.drop digits.length
      if c = '0' ∧ (rest.head?.any Char.isDigit) then atNext .invalidNumber rest
      else
        let (sum, left) := accumulate 0 digits
        match rest with
        | '.' :: rest => fraction negative sum left.length rest
        | _ =>
          if left.isEmpty ∧ ¬ (rest.head?.any fun c => c = 'e' ∨ c = 'E') then
            .ok (integer negative sum, rest)
          else afterDigits negative sum left.length rest

/-- A number. -/
def number : List Char → Result Number
  | '-' :: s => unsigned true s
  | s => unsigned false s

/-! ## Strings -/

/-- The number of bytes of a text. -/
def byteCount (s : List Char) : Nat := s.foldr (fun c n => c.utf8Size + n) 0

/-- The four hexadecimal digits of an escape. A text of less than four bytes ends too early; four
bytes that are no digits count as read. -/
def hexEscape (s : List Char) : Result Nat :=
  if byteCount s < 4 then atRest .endInString []
  else match s with
    | a :: b :: c :: d :: rest =>
      match hexValue? a, hexValue? b, hexValue? c, hexValue? d with
      | some a, some b, some c, some d => .ok (((a * 16 + b) * 16 + c) * 16 + d, rest)
      | _, _, _, _ => .error ⟨.invalidEscape, s, 4⟩
    | _ => .error ⟨.invalidEscape, s, 4⟩

/-- The second half of a surrogate pair whose first half was read. -/
def secondHalf (high : Nat) (s : List Char) : Result Char :=
  match s with
  | [] => atRest .endInString []
  | '\\' :: [] => atRest .endInString []
  | '\\' :: 'u' :: s =>
    match hexEscape s with
    | .error stop => .error stop
    | .ok (low, rest) =>
      if 0xDC00 ≤ low ∧ low ≤ 0xDFFF then
        .ok (Char.ofNat ((high - 0xD800) * 0x400 + (low - 0xDC00) + 0x10000), rest)
      else atRest .loneSurrogate rest
  | '\\' :: s => .error ⟨.endOfEscape, s, 1⟩
  | s => .error ⟨.endOfEscape, s, 1⟩

/-- The character of an escape whose four digits follow. -/
def unicodeEscape (s : List Char) : Result Char :=
  match hexEscape s with
  | .error stop => .error stop
  | .ok (n, rest) =>
    if 0xDC00 ≤ n ∧ n ≤ 0xDFFF then atRest .loneSurrogate rest
    else if 0xD800 ≤ n ∧ n ≤ 0xDBFF then secondHalf n rest
    else .ok (Char.ofNat n, rest)

/-- The character of an escape of one letter. -/
def letterEscape? (c : Char) : Option Char :=
  if c = '"' ∨ c = '\\' ∨ c = '/' then some c
  else if c = 'b' then some '\x08'
  else if c = 'f' then some '\x0c'
  else if c = 'n' then some '\n'
  else if c = 'r' then some '\r'
  else if c = 't' then some '\t'
  else none

/-- The character of an escape whose backslash was read. -/
def escaped : List Char → Result Char
  | [] => atRest .endInString []
  | 'u' :: s => unicodeEscape s
  | c :: s =>
    match letterEscape? c with
    | some d => .ok (d, s)
    | none => .error ⟨.invalidEscape, c :: s, 1⟩

/-- An escape that is passed over: its digits are read, what they stand for is not judged. -/
def escapedUnjudged : List Char → Result Char
  | 'u' :: s => (hexEscape s).map fun (_, rest) => ('u', rest)
  | s => escaped s

/-- The characters up to the closing quote. The fuel bounds the number of characters. -/
def stringBody (escape : List Char → Result Char) : Nat → List Char → Result (List Char)
  | 0, s => atRest .endInString s
  | _ + 1, [] => atRest .endInString []
  | _ + 1, '"' :: rest => .ok ([], rest)
  | fuel + 1, '\\' :: s =>
    match escape s with
    | .error stop => .error stop
    | .ok (c, rest) => (stringBody escape fuel rest).map fun (cs, rest) => (c :: cs, rest)
  | fuel + 1, c :: s =>
    if c.toNat < 32 then .error ⟨.controlCharacter, c :: s, 1⟩
    else (stringBody escape fuel s).map fun (cs, rest) => (c :: cs, rest)

/-- A string whose opening quote was read. -/
def string (s : List Char) : Result String :=
  (stringBody escaped (s.length + 1) s).map fun (cs, rest) => (String.ofList cs, rest)

/-! ## Arrays and objects -/

/-- The elements after an opening bracket, or after the first elements. The fuel bounds their
number. -/
def items {α : Type} (item : List Char → Result α) : Nat → Bool → List Char → Result (List α)
  | 0, _, s => atRest .endInList s
  | fuel + 1, first, s =>
    let next (s : List Char) : Except Stop (List α × List Char) := do
      let (v, s) ← item s
      let (vs, s) ← items item fuel false s
      .ok (v :: vs, s)
    match skipBlanks s with
    | [] => atNext .endInList []
    | ']' :: rest => .ok ([], rest)
    | c :: rest =>
      if first then next (c :: rest)
      else if c ≠ ',' then atNext .expectedListEnd (c :: rest)
      else match skipBlanks rest with
        | [] => atNext .endInValue []
        | ']' :: s => atNext .trailingComma (']' :: s)
        | s => next s

/-- The members after an opening brace, or after the first members. The fuel bounds their number. -/
def entries {α : Type} (entry : String → List Char → Result α) :
    Nat → Bool → List Char → Result (List α)
  | 0, _, s => atRest .endInObject s
  | fuel + 1, first, s =>
    let next (s : List Char) : Except Stop (List α × List Char) := do
      let (key, s) ← string s
      match skipBlanks s with
      | ':' :: s =>
        let (v, s) ← entry key s
        let (vs, s) ← entries entry fuel false s
        .ok (v :: vs, s)
      | [] => atNext .endInObject []
      | s => atNext .expectedColon s
    match skipBlanks s with
    | [] => atNext .endInObject []
    | '\x7d' :: rest => .ok ([], rest)
    | c :: rest =>
      if first then
        if c = '"' then next rest else atNext .keyNotString (c :: rest)
      else if c ≠ ',' then atNext .expectedObjectEnd (c :: rest)
      else match skipBlanks rest with
        | [] => atNext .endInValue []
        | '"' :: s => next s
        | '\x7d' :: s => atNext .trailingComma ('\x7d' :: s)
        | s => atNext .keyNotString s

/-- The number of levels of arrays and objects that a text may nest. -/
def maxNesting : Nat := 127

/-- An array whose opening bracket was read, as a list. -/
def list {α : Type} (item : List Char → Result α) (s : List Char) : Result (List α) :=
  items item (s.length + 1) true s

/-- An object whose opening brace was read, as a list of its members in order. -/
def record {α : Type} (entry : String → List Char → Result α) (s : List Char) : Result (List α) :=
  entries entry (s.length + 1) true s

/-- A value that may nest a number of levels further. -/
def value (levels : Nat) (s : List Char) : Result Json :=
  match skipBlanks s with
  | [] => atNext .endInValue []
  | 'n' :: s => word null ['u', 'l', 'l'] s
  | 't' :: s => word (bool true) ['r', 'u', 'e'] s
  | 'f' :: s => word (bool false) ['a', 'l', 's', 'e'] s
  | '"' :: s => (string s).map fun (t, rest) => (Json.string t, rest)
  | '[' :: s =>
    match levels with
    | 0 => atNext .nestedTooDeep ('[' :: s)
    | levels + 1 => (list (value levels) s).map fun (vs, rest) => (array vs, rest)
  | '\x7b' :: s =>
    match levels with
    | 0 => atNext .nestedTooDeep ('\x7b' :: s)
    | levels + 1 =>
      (record (fun key s => (value levels s).map fun (v, rest) => ((key, v), rest)) s).map
        fun (ms, rest) => (ofMembers ms, rest)
  | c :: s =>
    if c = '-' ∨ c.isDigit then (number (c :: s)).map fun (n, rest) => (Json.number n, rest)
    else atNext .expectedValue (c :: s)

/-- Nothing but blanks may follow. -/
def finish {α : Type} : α × List Char → Except Stop α
  | (v, s) => match skipBlanks s with
    | [] => .ok v
    | rest => .error ⟨.trailingText, rest, 1⟩

/-! ## Values that are passed over -/

/-- The digits of a number that is passed over. -/
def skipDigits (s : List Char) : Result Unit :=
  match s with
  | [] => atRest .endInValue []
  | c :: rest =>
    if c.isDigit then .ok ((), rest.dropWhile Char.isDigit)
    else .error ⟨.invalidNumber, c :: rest, 1⟩

/-- The exponent of a number that is passed over, if there is one. -/
def skipExponent : List Char → Result Unit
  | c :: s =>
    if c = 'e' ∨ c = 'E' then
      match s with
      | '+' :: s => skipDigits s
      | '-' :: s => skipDigits s
      | s => skipDigits s
    else .ok ((), c :: s)
  | [] => .ok ((), [])

/-- What follows the integer part of a number that is passed over. -/
def skipFraction : List Char → Result Unit
  | '.' :: s =>
    match skipDigits s with
    | .ok (_, rest) => skipExponent rest
    | .error stop => .error stop
  | s => skipExponent s

/-- A number whose size does not matter and whose sign was read. -/
def skipUnsigned : List Char → Result Unit
  | '0' :: s => if s.head?.any Char.isDigit then atNext .invalidNumber s else skipFraction s
  | s =>
    match skipDigits s with
    | .ok (_, rest) => skipFraction rest
    | .error stop => .error stop

/-- A number whose size does not matter. -/
def skipNumber : List Char → Result Unit
  | '-' :: s => skipUnsigned s
  | s => skipUnsigned s

/-- Passes over a value of any depth; the fuel bounds the depth. -/
def skipValue (fuel : Nat) (s : List Char) : Result Unit :=
  match skipBlanks s with
  | [] => atNext .endInValue []
  | 'n' :: s => word () ['u', 'l', 'l'] s
  | 't' :: s => word () ['r', 'u', 'e'] s
  | 'f' :: s => word () ['a', 'l', 's', 'e'] s
  | '"' :: s => (stringBody escapedUnjudged (s.length + 1) s).map fun (_, rest) => ((), rest)
  | '[' :: s =>
    match fuel with
    | 0 => atNext .nestedTooDeep ('[' :: s)
    | fuel + 1 => (list (skipValue fuel) s).map fun (_, rest) => ((), rest)
  | '\x7b' :: s =>
    match fuel with
    | 0 => atNext .nestedTooDeep ('\x7b' :: s)
    | fuel + 1 => (record (fun _ s => skipValue fuel s) s).map fun (_, rest) => ((), rest)
  | c :: s =>
    if c = '-' ∨ c.isDigit then skipNumber (c :: s) else atNext .expectedValue (c :: s)

/-- Passes over a value. -/
def skip (s : List Char) : Result Unit := skipValue s.length s

/-! ## Places -/

/-- The line and the column after a number of bytes of a text. -/
def locate (line column : Nat) : List Char → Nat → Nat × Nat
  | [], _ => (line, column)
  | _, 0 => (line, column)
  | c :: rest, bytes =>
    if c = '\n' then locate (line + 1) 0 rest (bytes - 1)
    else if bytes < c.utf8Size then (line, column + bytes)
    else locate line (column + c.utf8Size) rest (bytes - c.utf8Size)

/-- The place at which reading a text stopped. -/
def Stop.toError (text : List Char) (stop : Stop) : TextError :=
  let total := byteCount text
  let place := locate 1 0 text (min total (total - byteCount stop.rest + stop.past))
  ⟨stop.fault, place.1, place.2⟩

/-- Reads a whole text. -/
def run {α : Type} (reader : List Char → Result α) (text : String) : Except TextError α :=
  match (reader text.toList).bind finish with
  | .ok v => .ok v
  | .error stop => .error (Stop.toError text.toList stop)

end Reader

/-- The value of a JSON text. -/
def ofText (text : String) : Except TextError Json :=
  Reader.run (Reader.value Reader.maxNesting) text

end DocSchema.Json
