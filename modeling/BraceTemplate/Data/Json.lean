import BraceTemplate.Data.PlainText
import BraceTemplate.Json.Written

/-!
# JSON text of data

The JSON form of data as they are, without making them template values first: undefined, functions
and symbols have none, a map is written as an empty mapping, and big integers and circles are faults.
A gap is written as null, like an item without a JSON form.
`Heap.stringify` writes data the way templates write values.
-/

namespace BraceTemplate

namespace Heap

/-- The name of a container in messages. -/
def containerName : Container → Text
  | .array _ => "Array"
  | .record _ => "Object"
  | .map _ => "Map"

/-- The fault of a circle that closes at container `id` by the step `last`; `trail` leads from the
innermost container outwards, each with the step to it. -/
def circleFault (h : Heap) (id : Nat) (last : CircleStep) (trail : List (CircleStep × Nat)) : Fault :=
  let name (id : Nat) : Text := ((h[id]?).map containerName).getD []
  let way := (trail.takeWhile fun s => s.2 != id).reverse.map fun s => (s.1, name s.2)
  .circle (name id) way last

/-- Whether a record makes its own JSON form; the functions of callers make none. -/
def makesOwnJson (entries : Mapping Datum) : Bool :=
  ((Mapping.get? entries "toJSON").map Datum.isFunction).getD false

/-- The tree that the JSON form of a datum shows; none for what has no such form. -/
def jsonTree (h : Heap) (trail : List (CircleStep × Nat)) (step : CircleStep) :
    Datum → Except Fault (Option Value)
  | .undefined | .function | .symbol => .ok none
  | .value v => .ok (some v)
  | .bigint _ => .error .bigintAsJson
  | .date none => .ok (some .null)
  | .date (some t) => .ok (some (.text (Instant.isoText t)))
  | .node id =>
    if _hid : id ∈ trail.map Prod.snd then .error (h.circleFault id step trail)
    else match _hc : h[id]? with
      | none => .ok none
      | some (.array items) => do
        let trees ← (items.mapIdx fun i item => (i, item)).mapM fun e => match e.2 with
          | none => .ok none
          | some d => h.jsonTree ((step, id) :: trail) (.index e.1) d
        return some (.ofList (trees.map fun tree => tree.getD .null))
      | some (.record entries) =>
        if makesOwnJson entries then .ok none
        else do
          let trees ← entries.mapM fun e => do
            return (e.1, ← h.jsonTree ((step, id) :: trail) (.property e.1) e.2)
          return some (.mapping (trees.filterMap fun e => e.2.map (e.1, ·)))
      | some (.map _) => .ok (some (.mapping []))
termination_by h.unvisited (trail.map Prod.snd)
decreasing_by all_goals exact unvisited_cons_lt _hid _hc

/-- The tree of the JSON form of a datum by itself. -/
def toJson (h : Heap) (d : Datum) : Except Fault (Option Value) :=
  h.jsonTree [] (.property []) d

/-- A datum as template text; undefined, functions and symbols have none. -/
def stringifyWithin (h : Heap) (path : List Nat) : Datum → Except Fault (Option Text)
  | .value v => .ok (some v.toText)
  | .node id =>
    if _hid : id ∈ path then .error .bottomless
    else match _hc : h[id]? with
      | some (.array items) => do
        let texts ← items.mapM fun item => match item with
          | none => .ok none
          | some d => h.stringifyWithin (id :: path) d
        return some (Text.join ", " (texts.map fun t => t.getD []))
      | _ => do return (← h.toJson (.node id)).map Json.compact
  | d => do return (← h.toJson d).map Json.compact
termination_by h.unvisited path
decreasing_by exact unvisited_cons_lt _hid _hc

/-- A datum as template text. -/
def stringify (h : Heap) (d : Datum) : Except Fault (Option Text) :=
  h.stringifyWithin [] d

end Heap

end BraceTemplate
