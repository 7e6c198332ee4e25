import BraceTemplate.Data

/-!
# Issues

What a schema finds wrong with data: where, and why. Every cause has a code and a message.
-/

namespace BraceTemplate

/-- What kind of datum a schema sees. -/
inductive DataKind where
  | undefined
  | null
  | boolean
  | number
  | notANumber
  | text
  | array
  | record
  | map
  | date
  | bigint
  | function
  | symbol
  /-- A record with functions to await what it promises. -/
  | promise
deriving DecidableEq, Repr

namespace DataKind

/-- The word for a kind in messages. -/
def word : DataKind → Text
  | undefined => "undefined"
  | null => "null"
  | boolean => "boolean"
  | number => "number"
  | notANumber => "nan"
  | text => "string"
  | array => "array"
  | record => "object"
  | map => "map"
  | date => "date"
  | bigint => "bigint"
  | function => "function"
  | symbol => "symbol"
  | promise => "promise"

/-- The kind of a record with these properties. -/
def ofRecord (entries : Mapping Datum) : DataKind :=
  let isFunction := fun key => match Mapping.get? entries key with
    | some .function => true
    | _ => false
  if isFunction "then" && isFunction "catch" then promise else record

/-- The kind of a datum. -/
def ofDatum (h : Heap) : Datum → DataKind
  | .undefined => undefined
  | .value .null => null
  | .value (.bool _) => boolean
  | .value (.number n) => if n.isNaN then notANumber else number
  | .value (.text _) => text
  | .value (.list _) => array
  | .value (.mapping _) => record
  | .bigint _ => bigint
  | .function => function
  | .symbol => symbol
  | .date _ => date
  | .node id => match h[id]? with
    | some (.array _) => array
    | some (.record entries) => ofRecord entries
    | some (.map _) => map
    | none => undefined

end DataKind

/-- One step from a datum to a part of it. -/
inductive PathStep where
  | key (k : Text)
  | index (i : Nat)
deriving DecidableEq, Repr

namespace PathStep

def toText : PathStep → Text
  | key k => k
  | index i => Text.ofNat i

end PathStep

/-- What a schema asks of the kind of a datum. -/
inductive Expected where
  | kind (k : DataKind)
  /-- One of these words. -/
  | choice (options : List Text)
deriving DecidableEq, Repr

/-- Why a datum does not fit. -/
inductive Misfit where
  | wrongKind (expected : Expected) (received : DataKind)
  | fraction
  | numberBelow (minimum : Nat)
  | textShorter (minimum : Nat)
  | unknownKeys (keys : List Text)
  | unknownChoice (options : List Text) (given : Text)
  | noAlternative
  | unreadableDate
deriving DecidableEq, Repr

/-- A misfit at a place. -/
structure Issue where
  path : List PathStep
  misfit : Misfit
deriving DecidableEq, Repr

namespace Misfit

/-- A word between apostrophes. -/
def quotedWord (t : Text) : Text :=
  Text.concat ["'", t, "'"]

/-- Words between apostrophes, with a separator. -/
def quotedWords (separator : Text) (words : List Text) : Text :=
  Text.join separator (words.map quotedWord)

/-- The code of a misfit. -/
def code : Misfit → Text
  | wrongKind .. | fraction => "invalid_type"
  | numberBelow _ | textShorter _ => "too_small"
  | unknownKeys _ => "unrecognized_keys"
  | unknownChoice .. => "invalid_enum_value"
  | noAlternative => "invalid_union"
  | unreadableDate => "custom"

/-- What was expected, in words. -/
def expectedText : Expected → Text
  | .kind k => k.word
  | .choice options => quotedWords " | " options

/-- The message of a misfit. -/
def message : Misfit → Text
  | wrongKind _ .undefined => "Required"
  | wrongKind e k => Text.concat ["Expected ", expectedText e, ", received ", k.word]
  | fraction => "Expected integer, received float"
  | numberBelow n => Text.concat ["Number must be greater than or equal to ", Text.ofNat n]
  | textShorter n => Text.concat ["String must contain at least ", Text.ofNat n, " character(s)"]
  | unknownKeys keys =>
    Text.concat ["Unrecognized key(s) in object: ", quotedWords ", " keys]
  | unknownChoice options given =>
    Text.concat ["Invalid enum value. Expected ", quotedWords " | " options, ", received ",
      quotedWord given]
  | noAlternative => "Invalid input"
  | unreadableDate => "Invalid date string"

end Misfit

namespace Issue

/-- The place of an issue in words. -/
def place (i : Issue) : Text :=
  if i.path.isEmpty then "(root)" else Text.join "." (i.path.map PathStep.toText)

/-- Where and what. -/
def toText (i : Issue) : Text :=
  Text.concat [i.place, ": ", i.misfit.message]

end Issue

end BraceTemplate
