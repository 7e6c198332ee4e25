import BraceTemplate.Data
import BraceTemplate.Date.Written

/-!
# Data as plain text

The text under which a datum serves as a key of a map, and in which a thrown value is reported.
Arrays join their items with commas, nothing standing for null, undefined, a gap and an array around
them. A record is written by its own `toString` or `valueOf`, and where neither can be called there is
no text. What is written of functions and symbols holds for those that data have: a function is written
as `() => undefined` and gives undefined when it is called, as a `toString` too, and a symbol has no
description. Functions that give other results and symbols with descriptions are not covered.
-/

namespace BraceTemplate

/-- The text of a record with these properties of its own. -/
def recordText (isFunction : Text → Option Bool) : Except Fault Text :=
  match isFunction "toString" with
  | none => .ok "[object Object]"
  | some true => .ok "undefined"
  | some false => match isFunction "valueOf" with
    | some true => .ok "undefined"
    | _ => .error .recordAsText

namespace Value

mutual

/-- A template value as plain text. -/
def plainText : Value → Except Fault Text
  | null => .ok "null"
  | bool b => .ok (if b then "true" else "false")
  | number n => .ok n.toText
  | text t => .ok t
  | list items => (itemTexts items).map (Text.join ",")
  | mapping entries => recordText fun key => (Mapping.get? entries key).map fun _ => false

/-- The texts of the items of a list. -/
def itemTexts : List (Option Value) → Except Fault (List Text)
  | [] => .ok []
  | none :: rest => do
    let others ← itemTexts rest
    return [] :: others
  | some v :: rest => do
    let first ← if v.isNull then .ok [] else plainText v
    let others ← itemTexts rest
    return first :: others

end

end Value

namespace Datum

def isFunction : Datum → Bool
  | function => true
  | _ => false

end Datum

namespace Heap

/-- A datum inside an array as text. -/
def itemText (h : Heap) (path : List Nat) : Datum → Except Fault Text
  | .undefined => .ok []
  | .value v => if v.isNull then .ok [] else v.plainText
  | .bigint n => .ok (Text.ofInt n)
  | .function => .ok "() => undefined"
  | .symbol => .error .symbolAsText
  | .date d => .ok d.longText
  | .node id =>
    if _hid : id ∈ path then .ok []
    else match _hc : h[id]? with
      | none => .ok []
      | some (.array items) => do
        let texts ← items.mapM fun item => match item with
          | none => .ok []
          | some d => h.itemText (id :: path) d
        return Text.join "," texts
      | some (.record entries) => recordText fun key => (Mapping.get? entries key).map Datum.isFunction
      | some (.map _) => .ok "[object Map]"
termination_by h.unvisited path
decreasing_by exact unvisited_cons_lt _hid _hc

/-- A datum as plain text. -/
def plainText (h : Heap) : Datum → Except Fault Text
  | .undefined => .ok "undefined"
  | .value v => v.plainText
  | .symbol => .ok "Symbol()"
  | d => h.itemText [] d

end Heap

/-- A caller's data as plain text. -/
def Data.plainText (data : Data) : Except Fault Text :=
  data.heap.plainText data.root

end BraceTemplate
