import BraceTemplate.Number.Shortest

/-!
# Numbers as text

The shortest decimal of a number, laid out with a plain point when it lies between `1e-6` and
`1e21` and with a signed exponent outside. The zeros are written alike.
-/

namespace BraceTemplate.Number

/-- From this place of the point on, a number is written with an exponent. -/
abbrev widestPoint : Int := 21

/-- Down to this place of the point, a number is written without an exponent. -/
abbrev narrowestPoint : Int := -6

/-- The layout of a positive decimal. -/
def Decimal.toText (d : Decimal) : Text :=
  let count : Int := d.digits.length
  if count ≤ d.point ∧ d.point ≤ widestPoint then
    d.digits ++ List.replicate (d.point - count).toNat CodeUnit.zero
  else if 0 < d.point ∧ d.point ≤ widestPoint then
    d.digits.take d.point.toNat ++ CodeUnit.point :: d.digits.drop d.point.toNat
  else if narrowestPoint < d.point ∧ d.point ≤ 0 then
    CodeUnit.zero :: CodeUnit.point :: (List.replicate (-d.point).toNat CodeUnit.zero ++ d.digits)
  else
    let exponent := d.point - 1
    let sign := if exponent < 0 then CodeUnit.minus else CodeUnit.plus
    let mark := CodeUnit.ofChar 'e' :: sign :: Text.ofNat exponent.natAbs
    match d.digits with
    | first :: second :: rest => first :: CodeUnit.point :: second :: rest ++ mark
    | digits => digits ++ mark

/-- A number as text. -/
def toText : Number → Text
  | nan => "NaN"
  | infinite negative => if negative then "-Infinity" else "Infinity"
  | finite negative mantissa shift =>
    if mantissa = 0 then [CodeUnit.zero]
    else
      let digits := (shortestDecimal mantissa shift).toText
      if negative then CodeUnit.minus :: digits else digits

end BraceTemplate.Number
