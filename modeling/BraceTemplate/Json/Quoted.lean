import BraceTemplate.Text

/-!
# Quoted text

The JSON form of a text: quotes, backslashes and control units are escaped, and so is a surrogate
without its partner, so that the form is well-formed in every encoding.
-/

namespace BraceTemplate.Json

/-- A digit of base sixteen in lower case. -/
def hexDigit (n : Nat) : CodeUnit :=
  if n < 10 then (0x30 + n).toUInt16 else (0x61 + (n - 10)).toUInt16

/-- The escape of a unit by its number. -/
def escapeUnit (u : CodeUnit) : Text :=
  let n := u.toNat
  [CodeUnit.backslash, CodeUnit.ofChar 'u', hexDigit (n / 4096), hexDigit (n / 256 % 16),
    hexDigit (n / 16 % 16), hexDigit (n % 16)]

/-- The letter that stands for a control unit after a backslash. -/
def shortEscape? (u : CodeUnit) : Option CodeUnit :=
  if u = 0x08 then some (CodeUnit.ofChar 'b')
  else if u = 0x09 then some (CodeUnit.ofChar 't')
  else if u = 0x0A then some (CodeUnit.ofChar 'n')
  else if u = 0x0C then some (CodeUnit.ofChar 'f')
  else if u = 0x0D then some (CodeUnit.ofChar 'r')
  else if u = CodeUnit.quote || u = CodeUnit.backslash then some u
  else none

/-- The quoted form of one unit that is no part of a pair. -/
def quoteUnit (u : CodeUnit) : Text :=
  match shortEscape? u with
  | some c => [CodeUnit.backslash, c]
  | none => if u < 0x20 || u.isHighSurrogate || u.isLowSurrogate then escapeUnit u else [u]

/-- The text between the quotes. -/
def quoteBody : Text → Text
  | [] => []
  | [u] => quoteUnit u
  | u :: v :: rest =>
    if u.isHighSurrogate && v.isLowSurrogate then u :: v :: quoteBody rest
    else quoteUnit u ++ quoteBody (v :: rest)

/-- The JSON form of a text. -/
def quoted (t : Text) : Text :=
  CodeUnit.quote :: (quoteBody t ++ [CodeUnit.quote])

end BraceTemplate.Json
