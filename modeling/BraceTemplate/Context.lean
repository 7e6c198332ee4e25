import BraceTemplate.Data.Normal
import BraceTemplate.Name

/-!
# Contexts

A context holds three namespaces: the variables, which plain paths read, and the data of the
conversation and of the user, which only paths under their roots reach. Contexts do not change; a loop
renders its body in a context with one variable more.
-/

namespace BraceTemplate

/-- The namespaces that a template is rendered against. -/
structure Context where
  bindings : Mapping Value
  conversationData : Mapping Value
  userData : Mapping Value
deriving Repr

namespace Context

/-- No variables and no data. -/
def empty : Context := ⟨[], [], []⟩

/-- The context that a caller's data give: their properties are the namespaces, and from null none
can be read. -/
def create (data : Data) : Except Fault Context :=
  match data.root with
  | .value .null => .error (.propertyOf "null" "variables")
  | root => do
    let read := fun key => data.heap.toMapping (data.heap.property root key)
    let bindings ← read "variables"
    let conversationData ← read "conversationData"
    let userData ← read "userData"
    return ⟨bindings, conversationData, userData⟩

/-- The context with one variable bound to a value, made normal. -/
def bind (ctx : Context) (name : Text) (v : Value) : Context :=
  { ctx with bindings := ctx.bindings.put name v.normalise }

/-- The context with one variable bound to a caller's data. -/
def bindData (ctx : Context) (name : Text) (data : Data) : Except Fault Context := do
  return { ctx with bindings := ctx.bindings.put name (← data.toValue) }

/-- The overlay's keys over those of the base, in each namespace. -/
def merge (base overlay : Context) : Context :=
  ⟨base.bindings.merge overlay.bindings,
    base.conversationData.merge overlay.conversationData,
    base.userData.merge overlay.userData⟩

/-- What a variable holds. -/
def get? (ctx : Context) (name : Text) : Option Value :=
  Mapping.get? ctx.bindings name

/-- What a path reads: under a root the other namespaces, else the variables. -/
def resolve? (ctx : Context) : List Text → Option Value
  | [] => none
  | head :: fields =>
    if head = Name.conversationRoot then (Value.mapping ctx.conversationData).path? fields
    else if head = Name.userRoot then (Value.mapping ctx.userData).path? fields
    else (Value.mapping ctx.bindings).path? (head :: fields)

/-- The namespaces as one value. -/
def toValue (ctx : Context) : Value :=
  .mapping [("variables", .mapping ctx.bindings),
    ("conversationData", .mapping ctx.conversationData), ("userData", .mapping ctx.userData)]

end Context

end BraceTemplate
