/-!
# Text

Text is a list of UTF-16 code units, so lengths, offsets, columns and the order of names all count
units, and a pair cut in two leaves a lone surrogate behind. Characters and strings occur only where
text enters or leaves the library.
-/

namespace BraceTemplate

/-- One UTF-16 code unit. -/
abbrev CodeUnit := UInt16

/-- A sequence of code units. -/
abbrev Text := List CodeUnit

namespace CodeUnit

/-- The unit of a character of the basic plane. -/
abbrev ofChar (c : Char) : CodeUnit := c.toNat.toUInt16

abbrev openBrace : CodeUnit := 0x7B
abbrev closeBrace : CodeUnit := 0x7D
abbrev lineFeed : CodeUnit := 0x0A
abbrev quote : CodeUnit := 0x22
abbrev apostrophe : CodeUnit := 0x27
abbrev backslash : CodeUnit := 0x5C
abbrev dollar : CodeUnit := 0x24
abbrev underscore : CodeUnit := 0x5F
abbrev plus : CodeUnit := 0x2B
abbrev minus : CodeUnit := 0x2D
abbrev point : CodeUnit := 0x2E
abbrev comma : CodeUnit := 0x2C
abbrev zero : CodeUnit := 0x30

/-- The digits `0` to `9`. -/
def isDigit (u : CodeUnit) : Bool :=
  0x30 ≤ u && u ≤ 0x39

/-- The letters `A` to `Z` and `a` to `z`. -/
def isLetter (u : CodeUnit) : Bool :=
  (0x41 ≤ u && u ≤ 0x5A) || (0x61 ≤ u && u ≤ 0x7A)

/-- The number a digit stands for. -/
def digitValue (u : CodeUnit) : Nat :=
  u.toNat - 0x30

/-- The first unit of a surrogate pair. -/
def isHighSurrogate (u : CodeUnit) : Bool :=
  0xD800 ≤ u && u ≤ 0xDBFF

/-- The second unit of a surrogate pair. -/
def isLowSurrogate (u : CodeUnit) : Bool :=
  0xDC00 ≤ u && u ≤ 0xDFFF

/-- The code point that a surrogate pair encodes. -/
def pairPoint (high low : CodeUnit) : Nat :=
  0x10000 + (high.toNat - 0xD800) * 0x400 + (low.toNat - 0xDC00)

end CodeUnit

namespace Text

/-- The units of a code point: one of the basic plane, two above it. -/
def ofPoint (p : Nat) : Text :=
  if p < 0x10000 then [p.toUInt16]
  else [(0xD800 + (p - 0x10000) / 0x400).toUInt16, (0xDC00 + (p - 0x10000) % 0x400).toUInt16]

/-- The code points of a text; a lone surrogate stands for itself. -/
def points : Text → List Nat
  | [] => []
  | [u] => [u.toNat]
  | u :: v :: rest =>
    if u.isHighSurrogate && v.isLowSurrogate then CodeUnit.pairPoint u v :: points rest
    else u.toNat :: points (v :: rest)

/-- The text of a list of code points. -/
def ofPoints (ps : List Nat) : Text :=
  ps.flatMap ofPoint

/-- The units of a string. -/
def ofString (s : String) : Text :=
  s.toList.flatMap fun c => ofPoint c.toNat

instance : Coe String Text := ⟨ofString⟩

/-- The text as a string; a lone surrogate becomes U+FFFD. -/
def toString (t : Text) : String :=
  String.ofList (t.points.map fun p =>
    if 0xD800 ≤ p && p ≤ 0xDFFF then Char.ofNat 0xFFFD else Char.ofNat p)

/-- The parts, one after another. -/
abbrev concat (parts : List Text) : Text :=
  parts.flatten

/-- The parts with a separator between neighbours. -/
abbrev join (separator : Text) (parts : List Text) : Text :=
  separator.intercalate parts

/-- A natural number in decimal digits. -/
def ofNat (n : Nat) : Text :=
  (Nat.toDigits 10 n).map CodeUnit.ofChar

/-- An integer in decimal digits after its sign. -/
def ofInt : Int → Text
  | .ofNat n => ofNat n
  | .negSucc n => CodeUnit.minus :: ofNat (n + 1)

/-- A natural number in at least `width` digits. -/
def ofNatPadded (width n : Nat) : Text :=
  let digits := ofNat n
  List.replicate (width - digits.length) CodeUnit.zero ++ digits

/-- The number that decimal digits stand for. -/
def digitsValue (digits : Text) : Nat :=
  digits.foldl (fun n u => 10 * n + u.digitValue) 0

/-- What follows `start`, if the text begins with it. -/
def dropStart? (start : Text) (t : Text) : Option Text :=
  if start.isPrefixOf t then some (t.drop start.length) else none

/-- The text cut at every occurrence of a unit. -/
def splitAt (u : CodeUnit) : Text → List Text
  | [] => [[]]
  | c :: rest =>
    if c = u then [] :: splitAt u rest
    else match splitAt u rest with
      | [] => [[c]]
      | part :: parts => (c :: part) :: parts

/-! ## Names in order -/

/-- Adds a name to an ascending list without repetition. -/
def insertName (name : Text) : List Text → List Text
  | [] => [name]
  | other :: rest =>
    if name < other then name :: other :: rest
    else if other < name then other :: insertName name rest
    else other :: rest

/-- The names of a list, each once, ascending by code unit. -/
def sortedNames (names : List Text) : List Text :=
  names.foldr insertName []

end Text

end BraceTemplate
