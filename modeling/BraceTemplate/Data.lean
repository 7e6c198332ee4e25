import BraceTemplate.Value.Written
import BraceTemplate.Date
import BraceTemplate.Fault

/-!
# Caller data

What a caller hands over is a graph: arrays, records and keyed maps lie in a heap and hold scalars
and references to each other, shared or in circles. An array may have gaps, places without an item.
Besides template values there are scalars that no template sees: undefined, big integers, functions,
symbols and dates. Of the functions and of the symbols there is one each: a function whose text is
`() => undefined` and that gives undefined, and a symbol without a description.
-/

namespace BraceTemplate

/-- A datum of a caller. -/
inductive Datum where
  | undefined
  | value (v : Value)
  | bigint (n : Int)
  | function
  | symbol
  | date (d : Date)
  /-- A reference to a container of the heap. -/
  | node (id : Nat)
deriving Repr

/-- A container of a heap. -/
inductive Container where
  /-- The items by their places; a place without an item is a gap. -/
  | array (items : List (Option Datum))
  | record (entries : Mapping Datum)
  /-- A map from any data to any data. -/
  | map (entries : List (Datum × Datum))
deriving Repr

/-- The containers of a caller's data, each with its place as identity. -/
abbrev Heap := Array Container

/-- A datum together with the heap that it refers to. -/
structure Data where
  heap : Heap
  root : Datum
deriving Repr

namespace Datum

instance : Inhabited Datum := ⟨undefined⟩

/-- Neither undefined nor null. -/
def isPresent : Datum → Bool
  | undefined => false
  | value v => !v.isNull
  | _ => true

/-- What a mapping leaves out: undefined, functions and symbols. -/
def isDropped : Datum → Bool
  | undefined | function | symbol => true
  | _ => false

/-- A text as a datum. -/
abbrev text (t : Text) : Datum :=
  value (.text t)

end Datum

/-- The data of a template value. -/
abbrev Data.ofValue (v : Value) : Data :=
  ⟨#[], .value v⟩

/-- The items of a list under the keys that are their places; a gap has no key. -/
def indexed {α : Type u} (items : List (Option α)) : List (Text × α) :=
  (items.mapIdx fun i item => item.map fun a => (Text.ofNat i, a)).reduceOption

namespace Heap

/-- The heap with one more container, and the reference to it. -/
def add (h : Heap) (c : Container) : Heap × Datum :=
  (h.push c, .node h.size)

/-- A container that is added comes after those that are there. -/
theorem getElem?_add_of_some {h : Heap} {c new : Container} {id : Nat} (hc : h[id]? = some c) :
    (h.add new).1[id]? = some c := by
  have hlt := (Array.getElem?_eq_some_iff.1 hc).1
  rw [add, Array.getElem?_push, if_neg (Nat.ne_of_lt hlt), hc]

theorem getElem?_add_size (h : Heap) (new : Container) : (h.add new).1[h.size]? = some new := by
  rw [add, Array.getElem?_push, if_pos rfl]

/-- The items of an array by their places. -/
def items? (h : Heap) : Datum → Option (List (Option Datum))
  | .value (.list items) => some (items.map (Option.map .value))
  | .node id => match h[id]? with
    | some (.array items) => some items
    | _ => none
  | _ => none

/-- Whether a datum counts as a mapping: a container that is no array, or a date. -/
def isMapping (h : Heap) : Datum → Bool
  | .value (.mapping _) => true
  | .date _ => true
  | .node id => match h[id]? with
    | some (.record _) => true
    | some (.map _) => true
    | _ => false
  | _ => false

/-- The properties a datum has of its own. -/
def properties (h : Heap) : Datum → Mapping Datum
  | .value (.text t) => indexed (t.map fun u => some (.text [u]))
  | .value (.list items) => indexed (items.map (Option.map .value))
  | .value (.mapping entries) => entries.map fun (key, v) => (key, .value v)
  | .node id => match h[id]? with
    | some (.array items) => indexed items
    | some (.record entries) => entries
    | _ => []
  | _ => []

/-- A property of a datum; undefined if there is none. -/
def property (h : Heap) (d : Datum) (key : Text) : Datum :=
  (Mapping.get? (h.properties d) key).getD .undefined

section Record

variable {h : Heap} {id : Nat} {entries : Mapping Datum}

theorem properties_record (hc : h[id]? = some (.record entries)) : h.properties (.node id) = entries := by
  rw [properties, hc]

theorem property_record (hc : h[id]? = some (.record entries)) (key : Text) :
    h.property (.node id) key = (Mapping.get? entries key).getD .undefined := by
  rw [property, properties_record hc]

end Record

/-- Truth as for template values; of what only callers have, an empty container, a date and undefined
are false. -/
def isTruthy (h : Heap) (d : Datum) : Bool :=
  match d with
  | .undefined => false
  | .value v => v.isTruthy
  | .bigint _ | .function | .symbol => true
  | .date _ => false
  | .node _ => match h.items? d with
    | some items => !items.isEmpty
    | none => !(h.properties d).isEmpty

/-- Walks keys through nested mappings. -/
def path? (h : Heap) (d : Datum) : List Text → Option Datum
  | [] => some d
  | key :: keys =>
    if h.isMapping d then
      match Mapping.get? (h.properties d) key with
      | some inner => path? h inner keys
      | none => none
    else none

/-! ## Walking along references

A walk carries the containers it is inside of. It enters no container twice, so it ends.
-/

/-- How many containers a walk is not inside of. -/
def unvisited (h : Heap) (path : List Nat) : Nat :=
  (List.range h.size).countP fun id => id ∉ path

theorem countP_and_ne_lt (p : Nat → Bool) (x : Nat) (l : List Nat) (hx : x ∈ l) (hp : p x = true) :
    l.countP (fun y => p y && y != x) < l.countP p := by
  induction l with
  | nil => cases hx
  | cons y rest ih =>
    have hle : rest.countP (fun y => p y && y != x) ≤ rest.countP p :=
      List.countP_mono_left fun z _ h => by
        simp only [Bool.and_eq_true] at h
        exact h.1
    by_cases hy : y = x
    · subst hy
      simp [hp]
      omega
    · have hmem : x ∈ rest := by
        rcases List.mem_cons.1 hx with h | h
        · exact absurd h.symm hy
        · exact h
      have := ih hmem
      by_cases hpy : p y = true
      · simp [hpy, hy]
        omega
      · simp [hpy]
        omega

/-- Entering a container leaves fewer to enter. -/
theorem unvisited_cons_lt {h : Heap} {path : List Nat} {id : Nat} {c : Container}
    (hid : id ∉ path) (hc : h[id]? = some c) : h.unvisited (id :: path) < h.unvisited path := by
  have hlt : id < h.size := by
    rcases Array.getElem?_eq_some_iff.1 hc with ⟨hlt, _⟩
    exact hlt
  have key := countP_and_ne_lt (fun y => decide (y ∉ path)) id (List.range h.size)
    (List.mem_range.2 hlt) (by simpa using hid)
  have heq : (List.range h.size).countP (fun y => decide (y ∉ id :: path)) =
      (List.range h.size).countP (fun y => decide (y ∉ path) && y != id) := by
    apply List.countP_congr
    intro y _
    simp only [List.mem_cons, not_or, decide_eq_true_eq, Bool.and_eq_true, bne_iff_ne, ne_eq]
    exact And.comm
  unfold unvisited
  omega

end Heap

end BraceTemplate
