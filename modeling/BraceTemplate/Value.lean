import BraceTemplate.Mapping
import BraceTemplate.Number.Rounding

/-!
# Template values

Everything a template can see is a text, a number, a truth value, a list, a mapping or null. A lookup
that finds nothing and one that finds null are both absent.

A list has a length and an item at each of its places, but some places may be empty: a caller's array
may have gaps, and converting it leaves them. A gap is no item, and what reads one finds nothing.
-/

namespace BraceTemplate

/-- A template value. -/
inductive Value where
  | null
  | bool (b : Bool)
  | number (n : Number)
  | text (t : Text)
  /-- The items by their places; a place without an item is a gap. -/
  | list (items : List (Option Value))
  | mapping (entries : List (Text × Value))
deriving Repr

namespace Value

instance : Inhabited Value := ⟨null⟩

/-- A natural number as a value. -/
abbrev ofNat (n : Nat) : Value :=
  number (Number.ofNat n)

/-- A list without gaps. -/
abbrev ofList (items : List Value) : Value :=
  list (items.map some)

def isNull : Value → Bool
  | null => true
  | _ => false

/-- False are null, false, zero, a NaN and what is empty; all else is true. -/
def isTruthy : Value → Bool
  | null => false
  | bool b => b
  | number n => !n.isZero && !n.isNaN
  | text t => !t.isEmpty
  | list items => !items.isEmpty
  | mapping entries => !entries.isEmpty

/-- Walks keys through nested mappings. -/
def path? (v : Value) : List Text → Option Value
  | [] => some v
  | key :: keys =>
    match v with
    | mapping entries => match Mapping.get? entries key with
      | some inner => path? inner keys
      | none => none
    | _ => none

/-! ## Normal values

A normal value has finite numbers only, and the keys of each of its mappings are in order. -/

mutual

/-- Numbers that are not finite become null, mappings are built anew, and gaps stay. -/
def normalise : Value → Value
  | number n => if n.isFinite then number n else null
  | list items => list (normaliseAll items)
  | mapping entries => mapping (normaliseEntries [] entries)
  | v => v

/-- Every item of a list made normal. -/
def normaliseAll : List (Option Value) → List (Option Value)
  | [] => []
  | none :: rest => none :: normaliseAll rest
  | some v :: rest => some (normalise v) :: normaliseAll rest

/-- Puts every entry, made normal, into a mapping. -/
def normaliseEntries (done : Mapping Value) : List (Text × Value) → Mapping Value
  | [] => done
  | (key, v) :: rest => normaliseEntries (done.put key (normalise v)) rest

end

/-! ## Equality -/

mutual

/-- Structural equality: numbers as numbers, lists item by item, mappings by their keys in any
order. -/
def same : Value → Value → Bool
  | null, null => true
  | bool a, bool b => a = b
  | number a, number b => Number.same a b
  | text a, text b => a = b
  | list a, list b => sameAll a b
  | mapping a, mapping b => a.length = b.length && sameEntries a b
  | _, _ => false

/-- Whether two lists are of one length and every item of the first is at its place in the second.
What the second has at a gap of the first is not looked at. -/
def sameAll : List (Option Value) → List (Option Value) → Bool
  | [], [] => true
  | none :: as, _ :: bs => sameAll as bs
  | some a :: as, some b :: bs => same a b && sameAll as bs
  | _, _ => false

/-- Whether every entry of the first list is one of the second mapping. -/
def sameEntries : List (Text × Value) → Mapping Value → Bool
  | [], _ => true
  | (key, a) :: rest, m =>
    (match m.get? key with
      | some b => same a b
      | none => false) && sameEntries rest m

end

end Value

end BraceTemplate
