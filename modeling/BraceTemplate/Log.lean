import BraceTemplate.Data.Json
import BraceTemplate.Text.Case

/-!
# Log

Entries have a level, a message and perhaps data that belong to it. A log keeps the entries from its
level upwards. Written, an entry is one line after its time, level and scope.
-/

namespace BraceTemplate

/-- The levels of entries, the least urgent first. -/
inductive LogLevel where
  | debug
  | info
  | warn
  | error
deriving DecidableEq, Repr

namespace LogLevel

def all : List LogLevel := [debug, info, warn, error]

def word : LogLevel → Text
  | debug => "debug"
  | info => "info"
  | warn => "warn"
  | error => "error"

/-- The level of a word. -/
def ofWord? (t : Text) : Option LogLevel :=
  all.find? fun level => level.word = t

def rank : LogLevel → Nat
  | debug => 0
  | info => 1
  | warn => 2
  | error => 3

/-- Whether an entry of this level is kept by a log of that level. -/
def reaches (level threshold : LogLevel) : Bool :=
  threshold.rank ≤ level.rank

/-- The word of a level in capitals, filled up to five units. -/
def label (word : Text) : Text :=
  let word := word.upper
  word ++ List.replicate (5 - word.length) (CodeUnit.ofChar ' ')

end LogLevel

/-- An entry; undefined data are none. -/
structure LogEntry where
  level : LogLevel
  message : Text
  data : Data
deriving Repr

namespace LogEntry

/-- An entry without data. -/
abbrev plain (level : LogLevel) (message : Text) : LogEntry :=
  ⟨level, message, ⟨#[], .undefined⟩⟩

/-- An entry with a value. -/
abbrev ofValue (level : LogLevel) (message : Text) (v : Value) : LogEntry :=
  ⟨level, message, .ofValue v⟩

/-- The data of an entry as text: only data with properties are written. -/
def dataText (data : Data) : Except Fault Text :=
  if (data.heap.properties data.root).isEmpty then .ok []
  else do
    let tree ← data.heap.toJson data.root
    return CodeUnit.ofChar ' ' :: ((tree.map Json.compact).getD "undefined")

/-- The line of a message at a level, which may be any word. -/
def line (timestamp level scope message : Text) (data : Data) : Except Fault Text := do
  let data ← dataText data
  return Text.concat
    ["[", timestamp, "] [", LogLevel.label level, "] [", scope, "] ", message, data]

/-- An entry as it is written. -/
def toText (timestamp scope : Text) (e : LogEntry) : Except Fault Text :=
  line timestamp e.level.word scope e.message e.data

/-- The entries that a log of a level keeps. -/
def kept (threshold : LogLevel) (entries : List LogEntry) : List LogEntry :=
  entries.filter fun e => e.level.reaches threshold

end LogEntry

end BraceTemplate
