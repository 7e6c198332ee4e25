import BraceTemplate.Value
import BraceTemplate.Number.Written
import BraceTemplate.Json.Quoted

/-!
# JSON text of a value

The compact form has no blanks; the indented form puts every item on a line of its own, two spaces
deeper than its container, and writes what is empty as two brackets. Numbers that are not finite and
gaps are written as null.
-/

namespace BraceTemplate.Json

/-- How the parts of a container are set apart. -/
inductive Layout where
  | compact
  /-- Items stand on lines of their own, indented by so many spaces. -/
  | indented (spaces : Nat)
deriving DecidableEq, Repr

namespace Layout

/-- The layout of the items of a container. -/
def inner : Layout → Layout
  | compact => compact
  | indented n => indented (n + 2)

/-- What separates a bracket from the next item. -/
def lineBreak : Layout → Text
  | compact => []
  | indented n => CodeUnit.lineFeed :: List.replicate n 0x20

/-- What separates a key from what it holds. -/
def afterKey : Layout → Text
  | compact => ":"
  | indented _ => ": "

/-- The parts between brackets. -/
def enclose (layout : Layout) (opening closing : CodeUnit) : List Text → Text
  | [] => [opening, closing]
  | parts =>
    opening :: Text.concat [layout.inner.lineBreak,
      Text.join (CodeUnit.comma :: layout.inner.lineBreak) parts, layout.lineBreak, [closing]]

end Layout

mutual

/-- The JSON text of a value. -/
def write (layout : Layout) : Value → Text
  | .null => "null"
  | .bool b => if b then "true" else "false"
  | .number n => if n.isFinite then n.toText else "null"
  | .text t => quoted t
  | .list items => layout.enclose 0x5B 0x5D (writeAll layout.inner items)
  | .mapping entries => layout.enclose 0x7B 0x7D (writeEntries layout.inner entries)

/-- The JSON texts of the items of a list. -/
def writeAll (layout : Layout) : List (Option Value) → List Text
  | [] => []
  | none :: rest => "null" :: writeAll layout rest
  | some v :: rest => write layout v :: writeAll layout rest

/-- The JSON texts of the entries of a mapping. -/
def writeEntries (layout : Layout) : List (Text × Value) → List Text
  | [] => []
  | (key, v) :: rest =>
    (quoted key ++ layout.afterKey ++ write layout v) :: writeEntries layout rest

end

/-- The compact JSON text of a value. -/
abbrev compact (v : Value) : Text :=
  write .compact v

/-- The JSON text of a value with an indentation of two. -/
abbrev pretty (v : Value) : Text :=
  write (.indented 0) v

end BraceTemplate.Json
