import BraceTemplate.Text

/-!
# Faults

What stops a conversion or a function call: the causes, the kind of error each one is, and its
message.
-/

namespace BraceTemplate

/-- One step along a circle of references, as an error message names it. -/
inductive CircleStep where
  | property (key : Text)
  | index (i : Nat)
deriving DecidableEq, Repr

/-- A cause of failure. -/
inductive Fault where
  /-- A built-in function was given something else than a list. -/
  | expectsList (function : Text)
  /-- A built-in function was given something else than a count. -/
  | expectsCount (function : Text)
  /-- A built-in function was given something else than a mapping. -/
  | expectsMapping (function : Text)
  /-- A symbol inside a list has no text. -/
  | symbolAsText
  /-- A record whose own conversions cannot be called has no text. -/
  | recordAsText
  /-- A big integer has no JSON form. -/
  | bigintAsJson
  /-- A circle of references has no JSON form: the kind of container it starts at, the containers
  on the way with the steps to them, and the step that closes it. -/
  | circle (start : Text) (way : List (CircleStep × Text)) (last : CircleStep)
  /-- A list that holds itself has no text. -/
  | bottomless
  /-- An invalid date has no interchange form. -/
  | invalidTime
  /-- A property was read from nothing. -/
  | propertyOf (nothing property : Text)
  /-- A caller's function failed with a message. -/
  | raised (message : Text)
deriving DecidableEq, Repr

namespace CircleStep

def toText : CircleStep → Text
  | property key => if key.isEmpty then "<anonymous>" else Text.concat ["property '", key, "'"]
  | index i => Text.concat ["index ", Text.ofNat i]

end CircleStep

namespace Fault

/-- The kinds of error a fault can be. -/
inductive Kind where
  | error
  | typeError
  | rangeError
deriving DecidableEq, Repr

def kind : Fault → Kind
  | bottomless | invalidTime => .rangeError
  | raised _ => .error
  | _ => .typeError

/-- A line of the message about a circle. -/
def circleLine (step : CircleStep × Text) : Text :=
  Text.concat ["\n    |     ", step.1.toText, " -> object with constructor '", step.2, "'"]

/-- The middle lines of the message about a circle; of more than three, only the first two and the
last are given. -/
def circleLines (way : List (CircleStep × Text)) : Text :=
  if way.length ≤ 3 then way.flatMap circleLine
  else Text.concat [(way.take 2).flatMap circleLine, "\n    |     ...",
    (way.drop (way.length - 1)).flatMap circleLine]

/-- The message of a fault. -/
def message : Fault → Text
  | expectsList f => Text.concat [f, "() expects a list"]
  | expectsCount f => Text.concat [f, "() expects a non-negative integer"]
  | expectsMapping f => Text.concat [f, "() expects a mapping"]
  | symbolAsText => "Cannot convert a Symbol value to a string"
  | recordAsText => "Cannot convert object to primitive value"
  | bigintAsJson => "Do not know how to serialize a BigInt"
  | circle start way last =>
    Text.concat ["Converting circular structure to JSON\n    --> starting at object with constructor '",
      start, "'", circleLines way, "\n    --- ", last.toText, " closes the circle"]
  | bottomless => "Maximum call stack size exceeded"
  | invalidTime => "Invalid time value"
  | propertyOf nothing property =>
    Text.concat ["Cannot read properties of ", nothing, " (reading '", property, "')"]
  | raised m => m

end Fault

end BraceTemplate
