import BraceTemplate.Function
import BraceTemplate.Data.Json
import BraceTemplate.Date.Written
import BraceTemplate.Number.Numeral
import BraceTemplate.Text.Case

/-!
# Built-in functions

The functions every template can use unless they are switched off: the clock, the case of a text,
lengths, joining and cutting, the layout of lists and mappings, and the two that select one of their
arguments. They take data as they come; a template hands over values.
-/

namespace BraceTemplate

/-- The texts that settings put into the output of built-in functions. -/
structure FunctionStyle where
  listBullet : Text
  truncateSuffix : Text
deriving DecidableEq, Repr

/-- Where the time is read from: the state of the host. -/
abbrev Clock (σ : Type) := σ → Date

/-- A text where none is written as a word. -/
def shownText (t : Option Text) : Text :=
  t.getD "undefined"

/-! ## Layout of lists and mappings -/

/-- A list as text: with bullets, with numbers, or between commas. A gap has neither bullet nor
number, but counts. -/
def formatList (items : List (Option (Option Text))) (style : Option Text) (bullet : Text) : Text :=
  if style = some "bullet" then
    Text.join "\n" (items.map fun item => (item.map fun t => bullet ++ shownText t).getD [])
  else if style = some "numbered" then
    Text.join "\n" (items.mapIdx fun i item =>
      (item.map fun t => Text.concat [Text.ofNat (i + 1), ". ", shownText t]).getD [])
  else Text.join ", " (items.map fun item => (item.getD none).getD [])

namespace Heap

/-- The items of a list as texts, with its gaps. -/
def stringifyAll (h : Heap) (items : List (Option Datum)) :
    Except Fault (List (Option (Option Text))) :=
  items.mapM fun item => item.mapM fun d => h.stringify d

/-- The entries of a mapping as lines. -/
def entryLines (h : Heap) (entries : Mapping Datum) : Except Fault (List Text) :=
  entries.mapM fun (key, d) => do
    return Text.concat [key, ": ", shownText (← h.stringify d)]

/-- A mapping as text: a line for every entry, indented JSON, or compact JSON. -/
def formatMapping (h : Heap) (d : Datum) (style : Option Text) : Except Fault Text :=
  let entries := h.properties d
  if entries.isEmpty then .ok []
  else if style = some "key_value" then do
    return Text.join "\n" (← h.entryLines entries)
  else do
    let tree := (← h.toJson d).getD .null
    return if style = some "json" then Json.pretty tree else Json.compact tree

end Heap

namespace Builtin

/-! ## Arguments -/

/-- The argument at a place; undefined if it is not given. -/
def argument (args : List Datum) (i : Nat) : Datum :=
  args.getD i .undefined

/-- The argument at a place, or what stands for it when it is undefined. -/
def argumentOr (args : List Datum) (i : Nat) (standard : Datum) : Datum :=
  match argument args i with
  | .undefined => standard
  | d => d

/-- An argument that has to be a list. -/
def listArgument (h : Heap) (function : Text) (d : Datum) : Except Fault (List (Option Datum)) :=
  match h.items? d with
  | some items => .ok items
  | none => .error (.expectsList function)

/-- An argument that has to be a count: a whole number that is not negative, perhaps as text. -/
def countArgument (function : Text) (d : Datum) : Except Fault Nat :=
  let number := match d with
    | .value (.text t) => Number.ofText t
    | .value (.number n) => n
    | _ => .nan
  match number.toInt? with
  | some (.ofNat n) => .ok n
  | _ => .error (.expectsCount function)

/-- The text of an argument; where there is none, the property that is read next fails. -/
def textArgument (h : Heap) (property : Text) (d : Datum) : Except Fault Text := do
  match ← h.stringify d with
  | some t => return t
  | none => throw (.propertyOf "undefined" property)

/-! ## The functions -/

/-- A text as the result of a function. -/
def textResult (t : Text) : Data :=
  .ofValue (.text t)

def upper (h : Heap) (args : List Datum) : Except Fault Data := do
  return textResult (← textArgument h "toUpperCase" (argument args 0)).upper

def lower (h : Heap) (args : List Datum) : Except Fault Data := do
  return textResult (← textArgument h "toLowerCase" (argument args 0)).lower

def title (h : Heap) (args : List Datum) : Except Fault Data := do
  return textResult (← textArgument h "toLowerCase" (argument args 0)).titleCase

/-- The units of a text, the places of a list, the keys of a mapping; zero for all else. -/
def len (h : Heap) (args : List Datum) : Except Fault Data :=
  let d := argument args 0
  let n := match d with
    | .value (.text t) => t.length
    | d => match h.items? d with
      | some items => items.length
      | none => if h.isMapping d then (h.properties d).length else 0
  .ok (.ofValue (.ofNat n))

def join (h : Heap) (args : List Datum) : Except Fault Data := do
  let items ← listArgument h "join" (argument args 0)
  let texts ← h.stringifyAll items
  let separator ← h.stringify (argumentOr args 1 (.text ", "))
  return textResult (Text.join (separator.getD ",") (texts.map fun t => (t.getD none).getD []))

/-- Cuts a text that is longer than a count, one hundred unless given, and puts the suffix after it. -/
def truncate (suffix : Text) (h : Heap) (args : List Datum) : Except Fault Data := do
  let text ← h.stringify (argument args 0)
  let limit ← countArgument "truncate" (argumentOr args 1 (.value (.ofNat 100)))
  match text with
  | none => throw (.propertyOf "undefined" "length")
  | some t => return textResult (if limit < t.length then t.take limit ++ suffix else t)

def listLayout (bullet : Text) (h : Heap) (args : List Datum) : Except Fault Data := do
  let items ← listArgument h "format_list" (argument args 0)
  let style ← h.stringify (argumentOr args 1 (.text "comma"))
  return textResult (formatList (← h.stringifyAll items) style bullet)

def mappingLayout (h : Heap) (args : List Datum) : Except Fault Data := do
  let d := argument args 0
  if h.isMapping d then
    let style ← h.stringify (argumentOr args 1 (.text "key_value"))
    return textResult (← h.formatMapping d style)
  else throw (.expectsMapping "format_dict")

/-- The second argument if the first is true, else the third, which is empty unless given. -/
def conditional (h : Heap) (args : List Datum) : Except Fault Data :=
  .ok ⟨h, if h.isTruthy (argument args 0) then argument args 1 else argumentOr args 2 (.text [])⟩

/-- The first argument if it is present, else the second. -/
def default (h : Heap) (args : List Datum) : Except Fault Data :=
  let d := argument args 0
  .ok ⟨h, if d.isPresent then d else argument args 1⟩

variable {σ : Type}

/-- A built-in function that reads no state. -/
def pureCallback (arity : Nat) (f : Heap → List Datum → Except Fault Data) : Callback σ where
  arity := arity
  run h args host := match f h args with
    | .ok data => (.returned data, host)
    | .error fault => (.failed fault, host)

/-- A built-in function that reads the clock. -/
def clockCallback (clock : Clock σ) (format : Date → Text) : Callback σ where
  arity := 0
  run _ _ host := (.returned (textResult (format (clock host))), host)

/-- A built-in function that needs all its declared arguments, present. -/
def plain (name : Text) (callback : Callback σ) : Definition σ :=
  ⟨name, callback, .ofNat callback.arity, false⟩

/-- The built-in functions in order of their names. -/
def definitions (style : FunctionStyle) (clock : Clock σ) : List (Definition σ) :=
  [⟨"conditional", pureCallback 2 conditional, .ofNat 2, true⟩,
   ⟨"default", pureCallback 2 default, .ofNat 2, true⟩,
   plain "format_dict" (pureCallback 1 mappingLayout),
   plain "format_list" (pureCallback 1 (listLayout style.listBullet)),
   plain "join" (pureCallback 1 join),
   plain "len" (pureCallback 1 len),
   plain "lower" (pureCallback 1 lower),
   plain "now" (clockCallback clock Date.timestampText),
   plain "time" (clockCallback clock Date.timeText),
   plain "title" (pureCallback 1 title),
   plain "today" (clockCallback clock Date.dayText),
   plain "truncate" (pureCallback 1 (truncate style.truncateSuffix)),
   plain "upper" (pureCallback 1 upper)]

end Builtin

/-- Registers the built-in functions, over any others of their names. -/
def Registry.registerBuiltins {σ : Type} (r : Registry σ) (style : FunctionStyle)
    (clock : Clock σ) : Registry σ :=
  (Builtin.definitions style clock).foldl Registry.set r

end BraceTemplate
