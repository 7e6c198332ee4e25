import BraceTemplate.Text

/-!
# Blanks

The units that separate words inside a tag and that trimming removes: the white space and the line
ends of Unicode together with the byte order mark. U+0085 and U+200B are not among them.
-/

namespace BraceTemplate

/-- White space and line ends. -/
def CodeUnit.isBlank (u : CodeUnit) : Bool :=
  (0x09 ≤ u && u ≤ 0x0D) || u = 0x20 || u = 0xA0 || u = 0x1680 || (0x2000 ≤ u && u ≤ 0x200A) ||
    u = 0x2028 || u = 0x2029 || u = 0x202F || u = 0x205F || u = 0x3000 || u = 0xFEFF

namespace Text

/-- The text without leading blanks. -/
def trimStart (t : Text) : Text :=
  t.dropWhile CodeUnit.isBlank

/-- The text without trailing blanks. -/
def trimEnd (t : Text) : Text :=
  (t.reverse.dropWhile CodeUnit.isBlank).reverse

/-- The text without blanks at either end. -/
def trim (t : Text) : Text :=
  trimEnd (trimStart t)

end Text

end BraceTemplate
