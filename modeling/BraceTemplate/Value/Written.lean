import BraceTemplate.Json.Written

/-!
# Values as template text

Null is written as nothing, a list as its items with a comma and a space between them, a mapping as
compact JSON. Nothing stands for a gap.
-/

namespace BraceTemplate.Value

mutual

/-- A value as text. -/
def toText : Value → Text
  | null => []
  | bool b => if b then "true" else "false"
  | number n => n.toText
  | text t => t
  | list items => Text.join ", " (toTexts items)
  | mapping entries => Json.compact (mapping entries)

/-- The texts of the items of a list. -/
def toTexts : List (Option Value) → List Text
  | [] => []
  | none :: rest => [] :: toTexts rest
  | some v :: rest => toText v :: toTexts rest

end

end BraceTemplate.Value
