import BraceTemplate.Data.PlainText

/-!
# Data as template values

Dates become their interchange form, big integers their digits, and numbers that are not finite
null. What a mapping cannot hold is dropped from records and maps and becomes null in arrays; the gaps
of an array stay gaps. A reference back to a container around it becomes null; a container that is
merely shared is converted in full at every place.
-/

namespace BraceTemplate

namespace Heap

/-- The entries of a container under the texts of their keys. -/
def namedEntries (h : Heap) : Container → Except Fault (List (Text × Datum))
  | .array items => .ok (indexed items)
  | .record entries => .ok entries
  | .map entries => entries.mapM fun (key, d) => do return (← h.plainText key, d)

/-- The template value of a datum inside the containers of `path`. -/
def toValue (h : Heap) (path : List Nat) : Datum → Except Fault Value
  | .undefined | .function | .symbol => .ok .null
  | .value v => .ok v.normalise
  | .bigint n => .ok (.text (Text.ofInt n))
  | .date none => .ok .null
  | .date (some t) => .ok (.text (Instant.isoText t))
  | .node id =>
    if _hid : id ∈ path then .ok .null
    else match _hc : h[id]? with
      | none => .ok .null
      | some (.array items) => do
        let values ← items.mapM fun item => item.mapM fun d => h.toValue (id :: path) d
        return .list values
      | some c => do
        let entries ← h.namedEntries c
        let values ← (entries.filter fun e => !e.2.isDropped).mapM fun e => do
          return (e.1, ← h.toValue (id :: path) e.2)
        return .mapping (Mapping.ofList values)
termination_by h.unvisited path
decreasing_by all_goals exact unvisited_cons_lt _hid _hc

/-- The mapping of a datum given as a whole namespace: its own properties, converted. -/
def toMapping (h : Heap) (d : Datum) : Except Fault (Mapping Value) := do
  let path := match d with
    | .node id => [id]
    | _ => []
  let values ← ((h.properties d).filter fun e => !e.2.isDropped).mapM fun e => do
    return (e.1, ← h.toValue path e.2)
  return Mapping.ofList values

end Heap

namespace Data

/-- The template value of a caller's data. -/
def toValue (data : Data) : Except Fault Value :=
  data.heap.toValue [] data.root

/-- The mapping of a caller's data given as a whole namespace. -/
def toMapping (data : Data) : Except Fault (Mapping Value) :=
  data.heap.toMapping data.root

end Data

end BraceTemplate
