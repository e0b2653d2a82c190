import DocSchema.Number.Binary64

/-!
# The shortest decimal text of a binary number

It has the fewest digits that still read back as the number, and of those texts it is the nearest
to it.
-/
namespace DocSchema.Binary64

/-- The significant digits of a decimal number and the power of ten of the last one. -/
structure Decimal where
  digits : Nat
  power : Int
deriving DecidableEq, Repr

/-- The ratios between which every real number rounds to `significand · 2 ^ exponent`, over one
denominator: low end, the value itself, high end, denominator. -/
def interval (x : Binary64) : Nat × Nat × Nat × Nat :=
  let (s, t) := scaled 1 (x.exponent - 2)
  let low := if x.significand = Nat.pow 2 52 ∧ minExponent < x.exponent then 1 else 2
  ((4 * x.significand - low) * s, 4 * x.significand * s, (4 * x.significand + 2) * s, t)

/-- The distance of two points of the decimal grid `10 ^ power`, as a ratio. -/
def gridRatio (power : Int) : Nat × Nat :=
  if power < 0 then (1, Nat.pow 10 power.natAbs) else (Nat.pow 10 power.natAbs, 1)

/-- A point of the decimal grid `10 ^ power` reads back as the number. -/
def readsBack (x : Binary64) (digits : Nat) (power : Int) : Bool :=
  let (low, _, high, den) := interval x
  let (num, scale) := gridRatio power
  let point := digits * num * den
  if x.significand % 2 = 0 then low * scale ≤ point && point ≤ high * scale
  else low * scale < point && point < high * scale

/-- The point of the grid `10 ^ power` that is chosen for the number, if one of its two neighbours
there reads back: the nearer one, the even one on a tie. -/
def onGrid? (x : Binary64) (power : Int) : Option Decimal :=
  let (_, value, _, den) := interval x
  let (num, scale) := gridRatio power
  let below := value * scale / (num * den)
  let nearest := roundDiv (value * scale) (num * den)
  let other := if nearest = below then below + 1 else below
  if readsBack x nearest power then some ⟨nearest, power⟩
  else if readsBack x other power then some ⟨other, power⟩
  else none

/-- The power of ten of the first digit of a positive number. -/
def leadingPower (x : Binary64) : Int :=
  let (num, den) := x.ratio
  if den ≤ num then digitCount (num / den) - 1
  else
    let guess : Int := (digitCount num : Int) - digitCount den
    if num * Nat.pow 10 guess.natAbs < den then guess - 1 else guess

/-- The first grid, from the coarsest on, that has a point for the number. -/
def coarsest (x : Binary64) (power : Int) : Nat → Decimal
  | 0 => ⟨0, 0⟩
  | fuel + 1 => (onGrid? x power).getD (coarsest x (power - 1) fuel)

/-- Drops the zeros at the end of the digits. -/
def trimZeros (d : Decimal) : Nat → Decimal
  | 0 => d
  | fuel + 1 =>
    if d.digits % 10 = 0 ∧ d.digits ≠ 0 then trimZeros ⟨d.digits / 10, d.power + 1⟩ fuel else d

/-- The shortest digits that read back as the number. -/
def shortest (x : Binary64) : Decimal :=
  if x.isZero then ⟨0, 0⟩ else trimZeros (coarsest x (leadingPower x + 1) 19) 20

/-- How decimal digits are written out. -/
structure Style where
  /-- The least power of the first digit that is written in positional notation. -/
  leastPositional : Int
  /-- The first greater power that is not. -/
  firstExponential : Int
  /-- An exponent that is not negative has a sign too. -/
  plusSign : Bool

/-- Places digits around a decimal point; at least one digit stands on each side of it. -/
def positional (digits : List Char) (power : Int) : List Char :=
  if 0 ≤ power then digits ++ List.replicate power.natAbs '0' ++ ['.', '0']
  else
    let places := power.natAbs
    let padded := List.replicate (places + 1 - digits.length) '0' ++ digits
    padded.take (padded.length - places) ++ '.' :: padded.drop (padded.length - places)

/-- One digit, the others after a point if there are any, and the power. -/
def exponential (plusSign : Bool) (digits : List Char) (lead : Int) : List Char :=
  let fraction := match digits.tail with
    | [] => []
    | rest => '.' :: rest
  let sign := if lead < 0 then ['-'] else if plusSign then ['+'] else []
  digits.take 1 ++ fraction ++ 'e' :: (sign ++ Nat.toDigits 10 lead.natAbs)

/-- The text of a number: its shortest digits in a style. -/
def render (style : Style) (x : Binary64) : String :=
  let d := x.shortest
  let digits := Nat.toDigits 10 d.digits
  let lead := d.power + digits.length - 1
  let body :=
    if style.leastPositional ≤ lead ∧ lead < style.firstExponential then positional digits d.power
    else exponential style.plusSign digits lead
  String.ofList (if x.negative then '-' :: body else body)

end DocSchema.Binary64
