import BraceTemplate.Text

/-!
# Mappings

A mapping is a list of keys with what they hold. Keys that are written like array indices come
first, in ascending order; the others follow in the order in which they were first put. Putting a key
again replaces what it holds and keeps its place. `Mapping.Ordered` is this rule as a predicate.
-/

namespace BraceTemplate

/-- Keys with what they hold, in order. -/
abbrev Mapping (α : Type u) := List (Text × α)

/-- The largest array index. -/
abbrev maxIndex : Nat := 4294967294

/-- The array index a key is written like: decimal digits without a leading zero. -/
def arrayIndex? (key : Text) : Option Nat :=
  let n := Text.digitsValue key
  if key.length ≤ 10 && !key.isEmpty && key.all CodeUnit.isDigit &&
      (key.length = 1 || key.head? != some CodeUnit.zero) && n ≤ maxIndex then some n
  else none

namespace Mapping

variable {α : Type u}

/-- The keys in order. -/
abbrev keys (m : Mapping α) : List Text :=
  m.map Prod.fst

/-- What a key holds. -/
def get? (m : Mapping α) (key : Text) : Option α :=
  m.lookup key

/-- Whether a key is there. -/
def has (m : Mapping α) (key : Text) : Bool :=
  (m.get? key).isSome

/-- Replaces what a key holds. -/
def replace (m : Mapping α) (key : Text) (value : α) : Mapping α :=
  m.map fun (k, v) => if k = key then (k, value) else (k, v)

/-- Adds an index in front of the first key that is no smaller index. -/
def addIndex (m : Mapping α) (index : Nat) (key : Text) (value : α) : Mapping α :=
  match m with
  | [] => [(key, value)]
  | (k, v) :: rest =>
    match arrayIndex? k with
    | some i => if i < index then (k, v) :: addIndex rest index key value
      else (key, value) :: (k, v) :: rest
    | none => (key, value) :: (k, v) :: rest

/-- Puts a key: in its old place if it is there, else where new keys go. -/
def put (m : Mapping α) (key : Text) (value : α) : Mapping α :=
  if m.has key then m.replace key value
  else match arrayIndex? key with
    | some index => m.addIndex index key value
    | none => m ++ [(key, value)]

/-- Puts all keys of a list, one after another. -/
def putAll (m : Mapping α) (entries : List (Text × α)) : Mapping α :=
  entries.foldl (fun m (k, v) => m.put k v) m

/-- The mapping of a list of keys and values. -/
def ofList (entries : List (Text × α)) : Mapping α :=
  putAll [] entries

/-- The overlay's keys over those of the base. -/
def merge (base overlay : Mapping α) : Mapping α :=
  putAll base overlay

/-- May this key come somewhere before that one? -/
def Precedes (a b : Text) : Prop :=
  match arrayIndex? a, arrayIndex? b with
  | some i, some j => i < j
  | some _, none => True
  | none, some _ => False
  | none, none => a ≠ b

/-- The order rule: every key may come before those after it. -/
def Ordered (m : Mapping α) : Prop :=
  m.keys.Pairwise Precedes

end Mapping

end BraceTemplate
