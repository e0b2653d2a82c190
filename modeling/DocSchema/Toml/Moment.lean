import DocSchema.Text.Digit

/-!
# Dates and times

A date of the calendar, a time of the day, or both, and then also the offset of the time from
universal time.
-/
namespace DocSchema.Toml

/-- A reader of the start of a text: a value and the rest, or nothing. -/
abbrev Reading (α : Type) := List Char → Option (α × List Char)

/-- A day of the calendar. -/
structure Date where
  year : Nat
  month : Nat
  day : Nat
deriving DecidableEq, Repr

/-- A time of the day. -/
structure Time where
  hour : Nat
  minute : Nat
  second : Nat
  nanosecond : Nat
deriving DecidableEq, Repr

/-- How far a time is ahead of universal time. -/
inductive Offset where
  | universal
  | minutes (behind : Bool) (count : Nat)
deriving DecidableEq, Repr

/-- A date, a time, or both. -/
structure Moment where
  date : Option Date := none
  time : Option Time := none
  offset : Option Offset := none
deriving DecidableEq, Repr

/-! ## Reading -/

/-- The next character is a certain one. -/
def expect (c : Char) : Reading Unit
  | d :: rest => if c = d then some ((), rest) else none
  | [] => none

/-- A number of so many digits between two bounds. -/
def digits? (count low high : Nat) : Reading Nat := fun s => do
  let ds := s.take count
  if ds.length = count ∧ ds.all Char.isDigit then
    let n ← numeral? 10 ds
    if low ≤ n ∧ n ≤ high then some (n, s.drop count) else none
  else none

/-- The number of days of a month. -/
def daysIn (year month : Nat) : Nat :=
  let leap := year % 4 = 0 ∧ (year % 100 ≠ 0 ∨ year % 400 = 0)
  if month = 2 then if leap then 29 else 28
  else if [4, 6, 9, 11].contains month then 30
  else 31

/-- A day, as in `1979-05-27`. -/
def date? : Reading Date := fun s => do
  let (year, s) ← digits? 4 0 9999 s
  let (_, s) ← expect '-' s
  let (month, s) ← digits? 2 1 12 s
  let (_, s) ← expect '-' s
  let (day, s) ← digits? 2 1 (daysIn year month) s
  some (⟨year, month, day⟩, s)

/-- The nanoseconds of a fraction of a second; what follows the ninth digit is dropped. -/
def nanoseconds (ds : List Char) : Nat :=
  (numeral? 10 ((ds ++ List.replicate 9 '0').take 9)).getD 0

/-- A time, as in `07:32:00.5`. -/
def time? : Reading Time := fun s => do
  let (hour, s) ← digits? 2 0 23 s
  let (_, s) ← expect ':' s
  let (minute, s) ← digits? 2 0 59 s
  let (_, s) ← expect ':' s
  let (second, s) ← digits? 2 0 60 s
  match s with
  | '.' :: c :: rest =>
    if c.isDigit then
      some (⟨hour, minute, second, nanoseconds ((c :: rest).takeWhile Char.isDigit)⟩,
        (c :: rest).dropWhile Char.isDigit)
    else none
  | s => some (⟨hour, minute, second, 0⟩, s)

/-- An offset, as in `Z` or `-07:00`. -/
def offset? : Reading Offset
  | 'Z' :: rest => some (.universal, rest)
  | 'z' :: rest => some (.universal, rest)
  | c :: rest =>
    if c = '+' ∨ c = '-' then do
      let (hours, s) ← digits? 2 0 23 rest
      let (_, s) ← expect ':' s
      let (minutes, s) ← digits? 2 0 59 s
      some (.minutes (c = '-') (60 * hours + minutes), s)
    else none
  | [] => none

/-- A time after its date, if there is one: after a letter or a blank, with an offset or without. -/
def timeAfter? (s : List Char) : Option (Time × Option Offset × List Char) :=
  match s with
  | c :: rest =>
    if c = 'T' ∨ c = 't' ∨ c = ' ' then
      match time? rest with
      | some (time, rest) =>
        match offset? rest with
        | some (offset, rest) => some (time, some offset, rest)
        | none => some (time, none, rest)
      | none => none
    else none
  | [] => none

/-- A date, a time, or both. -/
def moment? : Reading Moment := fun s =>
  match date? s with
  | some (date, rest) =>
    match timeAfter? rest with
    | some (time, offset, rest) => some ({ date := some date, time := some time, offset }, rest)
    | none => some ({ date := some date }, rest)
  | none => (time? s).map fun (time, rest) => ({ time := some time }, rest)

/-! ## Writing -/

/-- A number with zeros in front up to a width. -/
def padded (width n : Nat) : List Char :=
  let ds := Nat.toDigits 10 n
  List.replicate (width - ds.length) '0' ++ ds

/-- The text of a day. -/
def Date.text (d : Date) : List Char :=
  padded 4 d.year ++ '-' :: (padded 2 d.month ++ '-' :: padded 2 d.day)

/-- The text of a time, with as many digits of the second as are needed. -/
def Time.text (t : Time) : List Char :=
  let fraction :=
    if t.nanosecond = 0 then []
    else '.' :: ((padded 9 t.nanosecond).reverse.dropWhile (· = '0')).reverse
  padded 2 t.hour ++ ':' :: (padded 2 t.minute ++ ':' :: padded 2 t.second) ++ fraction

/-- The text of an offset. No offset is written as one behind. -/
def Offset.text : Offset → List Char
  | universal => ['Z']
  | minutes behind count =>
    (if behind ∧ count ≠ 0 then '-' else '+') ::
      (padded 2 (count / 60) ++ ':' :: padded 2 (count % 60))

/-- The text of a moment. -/
def Moment.text (m : Moment) : List Char :=
  let date := (m.date.map Date.text).getD []
  let time := (m.time.map Time.text).getD []
  let mark := if m.date.isSome ∧ m.time.isSome then ['T'] else []
  date ++ mark ++ time ++ (m.offset.map Offset.text).getD []

end DocSchema.Toml
