import BraceTemplate.Value
import BraceTemplate.Name

/-!
# Expressions

What may stand in a tag: a path into the variables, a literal, a call whose arguments are paths and
literals, or a comparison of two of these.
-/

namespace BraceTemplate

/-- A head and the keys after its dots. -/
structure Path where
  head : Text
  fields : List Text
deriving DecidableEq, Repr

/-- All segments of a path. -/
abbrev Path.segments (p : Path) : List Text :=
  p.head :: p.fields

/-- A value written in a template. -/
inductive Literal where
  | text (t : Text)
  | number (n : Number)
  | bool (b : Bool)
  | null
deriving DecidableEq, Repr

namespace Literal

/-- The value of a literal. -/
def toValue : Literal → Value
  | text t => .text t
  | number n => .number n
  | bool b => .bool b
  | null => .null

/-- The literal that a word is, if it is one. -/
def ofWord? (word : Text) : Option Literal :=
  if word = Name.trueWord then some (bool true)
  else if word = Name.falseWord then some (bool false)
  else if word = Name.nullWord then some null
  else none

end Literal

/-- What may be an argument of a call. -/
inductive Argument where
  | path (p : Path)
  | literal (l : Literal)
deriving DecidableEq, Repr

/-- A function name with arguments. -/
structure Call where
  name : Text
  arguments : List Argument
deriving DecidableEq, Repr

/-- What may stand on a side of a comparison. -/
inductive Operand where
  | simple (a : Argument)
  | call (c : Call)
deriving DecidableEq, Repr

inductive Comparison where
  | equal
  | unequal
  | greater
  | less
  | atLeast
  | atMost
deriving DecidableEq, Repr

inductive Expression where
  | operand (o : Operand)
  | compare (operator : Comparison) (left right : Operand)
deriving DecidableEq, Repr

namespace Comparison

/-- The sign of a comparison. -/
def sign : Comparison → Text
  | equal => "=="
  | unequal => "!="
  | greater => ">"
  | less => "<"
  | atLeast => ">="
  | atMost => "<="

end Comparison

end BraceTemplate
