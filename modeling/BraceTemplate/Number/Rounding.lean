import BraceTemplate.Number

/-!
# Rounding to a double

The double nearest to an exact ratio of natural numbers; of two that are equally near, the one with
the even mantissa. Decimals of any length are read through it.
-/

namespace BraceTemplate.Number

/-- The integer nearest to `num / den`, the even one of two equally near. -/
def roundRatio (num den : Nat) : Nat :=
  let q := num / den
  let twice := 2 * (num % den)
  if twice < den then q
  else if den < twice then q + 1
  else q + q % 2

/-- The double nearest to `num / den` with the given sign. -/
def ofRatio (negative : Bool) (num den : Nat) : Number :=
  let units := num <<< unitBits
  let shift := (units / den).log2 + 1 - mantissaBits
  let mantissa := roundRatio units (den <<< shift)
  let (mantissa, shift) :=
    if mantissa = twoTo mantissaBits then (twoTo (mantissaBits - 1), shift + 1) else (mantissa, shift)
  if maxShift < shift then infinite negative else finite negative mantissa shift

/-- The zero of a sign. -/
abbrev zero (negative : Bool) : Number :=
  finite negative 0 0

/-- Decimals with this many places before or after the point lie outside the finite range. -/
abbrev decimalRange : Nat := 400

/-- The double nearest to `digits · 10^exponent`. -/
def ofDecimal (negative : Bool) (digits : Nat) (exponent : Int) : Number :=
  if digits = 0 then zero negative
  else
    let places := exponent + (Nat.toDigits 10 digits).length
    if places > decimalRange then infinite negative
    else if places < -(decimalRange : Int) then zero negative
    else match exponent with
      | .ofNat e => ofRatio negative (digits * tenTo e) 1
      | .negSucc e => ofRatio negative digits (tenTo (e + 1))

/-- The double nearest to a natural number. -/
def ofNat (n : Nat) : Number :=
  ofRatio false n 1

/-- The double nearest to an integer. -/
def ofInt : Int → Number
  | .ofNat n => ofNat n
  | .negSucc n => ofRatio true (n + 1) 1

end BraceTemplate.Number
