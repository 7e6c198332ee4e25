import BraceTemplate.Number.Rounding

/-!
# Shortest decimals

The decimal written for a number has the fewest digits that read back as it, and of those with that
many digits it is the nearest, or the even one of two equally near. The search works on exact
integers: a positive number lies in an interval of reals that round to it, and for each count of
digits the two neighbours of the number on that decimal grid are tested.
-/

namespace BraceTemplate.Number

/-- Decimal digits and the place of the point: `digits · 10^(point - count of digits)`. -/
structure Decimal where
  digits : Text
  point : Int
deriving DecidableEq, Repr

/-- The reals that round to a number, as multiples of `1 / scale`. -/
structure RoundingInterval where
  low : Nat
  value : Nat
  high : Nat
  /-- Whether the ends belong to the interval. -/
  closed : Bool

/-- Four times the units in one. -/
abbrev intervalScale : Nat := twoTo (unitBits + 2)

/-- The interval of a positive finite number, in quarters of a unit. The gap below a power of two
is half the gap above it. -/
def roundingInterval (mantissa shift : Nat) : RoundingInterval :=
  let value := (4 * mantissa) <<< shift
  let above := 2 <<< shift
  let below := if mantissa = twoTo (mantissaBits - 1) && shift != 0 then 1 <<< shift else above
  ⟨value - below, value, value + above, mantissa % 2 = 0⟩

/-- Whether `a · 10^e / 1` lies in the interval. -/
def RoundingInterval.contains (i : RoundingInterval) (a : Nat) (e : Int) : Bool :=
  let (lhs, scale) := match e with
    | .ofNat e => (a * tenTo e * intervalScale, 1)
    | .negSucc e => (a * intervalScale, tenTo (e + 1))
  if i.closed then i.low * scale ≤ lhs && lhs ≤ i.high * scale
  else i.low * scale < lhs && lhs < i.high * scale

/-- The two neighbours of the value on the grid of the multiples of `10^e`, the nearer one first; of
two equally near, the even one comes first. -/
def RoundingInterval.neighbours (i : RoundingInterval) (e : Int) : Nat × Nat :=
  let (num, den) := match e with
    | .ofNat e => (i.value, intervalScale * tenTo e)
    | .negSucc e => (i.value * tenTo (e + 1), intervalScale)
  let below := num / den
  let nearer := roundRatio num den
  (nearer, if nearer = below then below + 1 else below)

/-- The place of the point of a positive number: the count of digits before it, or minus the count
of zeros after it. -/
def RoundingInterval.point (i : RoundingInterval) : Int :=
  let whole := i.value * tenTo 330 / intervalScale
  (Nat.toDigits 10 whole).length - 330

/-- Digits without trailing zeros. -/
def stripZeros (digits : Text) : Text :=
  (digits.reverse.dropWhile (· = CodeUnit.zero)).reverse

/-- The decimal `a · 10^e` in its digits. -/
def Decimal.ofScaled (a : Nat) (e : Int) : Decimal :=
  let digits := Text.ofNat a
  ⟨stripZeros digits, e + digits.length⟩

/-- The nearest decimal of the interval with the fewest digits, from `count` digits on; `left`
bounds how many more counts are tried. -/
def RoundingInterval.search (i : RoundingInterval) (point : Int) : Nat → Nat → Decimal
  | count, 0 => Decimal.ofScaled (i.neighbours (point - count)).1 (point - count)
  | count, left + 1 =>
    let e := point - count
    let (first, second) := i.neighbours e
    if i.contains first e then Decimal.ofScaled first e
    else if i.contains second e then Decimal.ofScaled second e
    else i.search point (count + 1) left

/-- The shortest decimal that reads back as a positive finite number. -/
def shortestDecimal (mantissa shift : Nat) : Decimal :=
  let i := roundingInterval mantissa shift
  i.search i.point 1 17

end BraceTemplate.Number
