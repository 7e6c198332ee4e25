import BraceTemplate.Text

/-!
# Numbers

A number is an IEEE double held exactly: not a number, an infinity, or a sign, a mantissa and a
shift that stand for `± mantissa · 2^shift` units of `2^-1074`, the smallest positive double. Every
finite double is a whole number of these units, so equality and order are those of integers.
-/

namespace BraceTemplate

/-- A power of two. -/
abbrev twoTo (n : Nat) : Nat := Nat.pow 2 n

/-- A power of ten. -/
abbrev tenTo (n : Nat) : Nat := Nat.pow 10 n

/-- A double. -/
inductive Number where
  | nan
  | infinite (negative : Bool)
  | finite (negative : Bool) (mantissa shift : Nat)
deriving DecidableEq, Repr

namespace Number

/-- How many halvings lead from one to the unit in which finite numbers are counted. -/
abbrev unitBits : Nat := 1074

/-- The bits of a mantissa. -/
abbrev mantissaBits : Nat := 53

/-- The largest shift of a finite number. -/
abbrev maxShift : Nat := 2045

/-- The exact value of a finite number, counted in units of `2^-1074`. -/
def finiteUnits (negative : Bool) (mantissa shift : Nat) : Int :=
  if negative then -Int.ofNat (mantissa <<< shift) else Int.ofNat (mantissa <<< shift)

def isNaN : Number → Bool
  | nan => true
  | _ => false

def isFinite : Number → Bool
  | finite .. => true
  | _ => false

/-- Zero of either sign. -/
def isZero : Number → Bool
  | finite _ m _ => m = 0
  | _ => false

def isNegativeZero : Number → Bool
  | finite s m _ => s && m = 0
  | _ => false

/-! ## Equality and order -/

/-- How two numbers stand to each other by the sign of their difference. There is no answer when
the difference is not a number: with a NaN, and between two infinities of one sign. -/
def difference : Number → Number → Option Ordering
  | nan, _ => none
  | _, nan => none
  | infinite s, infinite t => if s = t then none else some (if s then .lt else .gt)
  | infinite s, finite .. => some (if s then .lt else .gt)
  | finite .., infinite s => some (if s then .gt else .lt)
  | finite s m k, finite t n l => some (compare (finiteUnits s m k) (finiteUnits t n l))

/-- Numeric equality: the zeros are equal, and a NaN equals nothing. -/
def same : Number → Number → Bool
  | infinite s, infinite t => s = t
  | finite s m k, finite t n l => finiteUnits s m k = finiteUnits t n l
  | _, _ => false

/-- The integer a number is, if it is one. -/
def toInt? : Number → Option Int
  | finite s m k =>
    if (m <<< k) % twoTo unitBits = 0 then
      let n := (m <<< k) >>> unitBits
      some (if s then -Int.ofNat n else Int.ofNat n)
    else none
  | _ => none

/-- The number without its fraction. -/
def truncate? : Number → Option Int
  | finite s m k =>
    let n := (m <<< k) >>> unitBits
    some (if s then -Int.ofNat n else Int.ofNat n)
  | _ => none

/-- Whether the number is below a natural number, compared exactly. -/
def ltNat : Number → Nat → Bool
  | nan, _ => false
  | infinite s, _ => s
  | finite s m k, n => finiteUnits s m k < Int.ofNat (n <<< unitBits)

/-- Whether the number is above a natural number, compared exactly. -/
def gtNat : Number → Nat → Bool
  | nan, _ => false
  | infinite s, _ => !s
  | finite s m k, n => Int.ofNat (n <<< unitBits) < finiteUnits s m k

end Number

end BraceTemplate
