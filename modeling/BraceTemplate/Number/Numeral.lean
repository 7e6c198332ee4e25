import BraceTemplate.Number.Rounding
import BraceTemplate.Text.Blank

/-!
# Numerals

The written forms a number is read from: plain decimals inside a tag, a whole text that denotes a
number, and the integer at the start of a setting.
-/

namespace BraceTemplate.Number

/-- The number written as whole digits, a point and fraction digits, scaled by a power of ten. -/
def ofDigits (negative : Bool) (whole fraction : Text) (exponent : Int) : Number :=
  ofDecimal negative (Text.digitsValue (whole ++ fraction)) (exponent - fraction.length)

/-- The longest run of digits at the start of a text, and what follows it. -/
def spanDigits (t : Text) : Text × Text :=
  (t.takeWhile CodeUnit.isDigit, t.dropWhile CodeUnit.isDigit)

/-- An exponent mark with its digits at the start of a text, and what follows them. -/
def exponentPart? : Text → Option (Int × Text)
  | e :: rest =>
    if e = CodeUnit.ofChar 'e' || e = CodeUnit.ofChar 'E' then
      let (negative, rest) := match rest with
        | u :: after =>
          if u = CodeUnit.minus then (true, after)
          else if u = CodeUnit.plus then (false, after)
          else (false, rest)
        | [] => (false, rest)
      match spanDigits rest with
      | ([], _) => none
      | (digits, after) =>
        let n := Int.ofNat (Text.digitsValue digits)
        some (if negative then -n else n, after)
    else none
  | [] => none

/-- A whole unsigned decimal: digits on at least one side of an optional point, then an optional
exponent. -/
def unsignedDecimal? (negative : Bool) (t : Text) : Option Number :=
  let (whole, rest) := spanDigits t
  let (fraction, rest) := match rest with
    | u :: after => if u = CodeUnit.point then spanDigits after else ([], rest)
    | [] => ([], [])
  if whole.isEmpty && fraction.isEmpty then none
  else match rest with
    | [] => some (ofDigits negative whole fraction 0)
    | _ => match exponentPart? rest with
      | some (e, []) => some (ofDigits negative whole fraction e)
      | _ => none

/-- The value of a digit of a base up to sixteen. -/
def baseDigit? (base : Nat) (u : CodeUnit) : Option Nat :=
  let value? :=
    if u.isDigit then some u.digitValue
    else if 0x61 ≤ u && u ≤ 0x66 then some (u.toNat - 0x61 + 10)
    else if 0x41 ≤ u && u ≤ 0x46 then some (u.toNat - 0x41 + 10)
    else none
  value?.filter (· < base)

/-- A natural number written in a base, all digits read. -/
def baseNumeral? (base : Nat) (digits : Text) : Option Number :=
  if digits.isEmpty then none
  else (digits.foldlM (fun n u => (baseDigit? base u).map (base * n + ·)) 0).map ofNat

/-- The base that a letter after a leading zero announces. -/
def baseOfMark? (u : CodeUnit) : Option Nat :=
  if u = CodeUnit.ofChar 'x' || u = CodeUnit.ofChar 'X' then some 16
  else if u = CodeUnit.ofChar 'o' || u = CodeUnit.ofChar 'O' then some 8
  else if u = CodeUnit.ofChar 'b' || u = CodeUnit.ofChar 'B' then some 2
  else none

/-- A signed decimal or the word `Infinity`. -/
def signedDecimal? (negative : Bool) (t : Text) : Option Number :=
  if t = "Infinity" then some (infinite negative) else unsignedDecimal? negative t

/-- The number that a whole text denotes: blanks around it are ignored, nothing at all is zero, and
what is no numeral is not a number. -/
def ofText (t : Text) : Number :=
  match t.trim with
  | [] => zero false
  | u :: rest =>
    if u = CodeUnit.minus then (signedDecimal? true rest).getD nan
    else if u = CodeUnit.plus then (signedDecimal? false rest).getD nan
    else match rest with
      | mark :: digits =>
        match if u = CodeUnit.zero then baseOfMark? mark else none with
        | some base => (baseNumeral? base digits).getD nan
        | none => (signedDecimal? false (u :: rest)).getD nan
      | [] => (signedDecimal? false [u]).getD nan

/-- The integer written at the start of a text, after blanks and a sign; what follows its digits is
ignored. -/
def leadingInteger? (t : Text) : Option Number :=
  let t := t.trimStart
  let (negative, rest) := match t with
    | u :: after =>
      if u = CodeUnit.minus then (true, after)
      else if u = CodeUnit.plus then (false, after)
      else (false, t)
    | [] => (false, t)
  match spanDigits rest with
  | ([], _) => none
  | (digits, _) => some (ofDigits negative digits [] 0)

end BraceTemplate.Number
