import BraceTemplate.FileTree
import BraceTemplate.Json.Reading
import BraceTemplate.Schema

/-!
# Context files

A context is given as a JSON object. If all its keys name namespaces, it is a full context; any other
object holds the variables.
-/

namespace BraceTemplate

/-- What is wrong with the input of the command. -/
inductive InputError where
  | templateTwice
  | modeTwice
  | noTemplate
  | templateMissing (l : Location)
  | contextMissing (l : Location)
  | contextNotJson
  | contextNotObject
  | contextMisfits (issues : List Issue)
deriving Repr

namespace InputError

def message : InputError → Text
  | templateTwice => "Use either --template or --inline, not both"
  | modeTwice => "Use either --validate or --variables, not both"
  | noTemplate => "One of --template or --inline is required"
  | templateMissing l => Text.concat ["Template file not found: ", l.toText]
  | contextMissing l => Text.concat ["Context file not found: ", l.toText]
  | contextNotJson => "Context file is not valid JSON: it is no JSON text"
  | contextNotObject => "Context must be a JSON object"
  | contextMisfits issues =>
    Text.concat ["Invalid context: ", Text.join "; " (issues.map Issue.toText)]

end InputError

namespace ContextFile

/-- The keys of a full context. -/
def namespaces : List Text :=
  ["variables", "conversationData", "userData"]

/-- What a namespace holds. -/
inductive Namespace where
  | absent
  | null
  | entries (m : Mapping Datum)

/-- A namespace that may be missing. -/
def namespaceSchema : Schema Namespace :=
  .withDefault (fun h path d => Namespace.entries <$> Schema.anyRecord h path d) .absent

/-- A namespace that may be missing or null. -/
def nullableSchema : Schema Namespace :=
  .nullable namespaceSchema .null

/-- The namespaces of a full context. -/
def fields : Fields (Namespace × Namespace × Namespace) :=
  (fun bindings conversation user => (bindings, conversation, user))
    <$> .field "variables" namespaceSchema
    <*> .field "conversationData" nullableSchema
    <*> .field "userData" nullableSchema

/-- The heap with a namespace in it, and the namespace as a datum. -/
def place (h : Heap) : Namespace → Heap × Datum
  | .absent => (h, .undefined)
  | .null => (h, .value .null)
  | .entries m => h.add (.record m)

/-- The data of a context with these namespaces. -/
def contextData (h : Heap) (bindings conversation user : Namespace) : Data :=
  let (h, v) := place h bindings
  let (h, c) := place h conversation
  let (h, u) := place h user
  let (h, root) := h.add (.record (namespaces.zip [v, c, u]))
  ⟨h, root⟩

/-- Whether a datum is an object: a container that is no array, or a date. -/
def isObject (data : Data) : Bool :=
  data.heap.isMapping data.root

/-- The context that the data of a JSON text stand for. -/
def interpret (data : Data) : Except InputError Data :=
  if !isObject data then .error .contextNotObject
  else
    let entries := data.heap.properties data.root
    if !entries.isEmpty && entries.keys.all namespaces.contains then
      match fields.exactRecord.check data with
      | .valid (v, c, u) => .ok (contextData data.heap v c u)
      | .invalid issues => .error (.contextMisfits issues)
    else .ok (contextData data.heap (.entries entries) .absent .absent)

/-- The context in a JSON text. -/
def read (text : Text) : Except InputError Data :=
  match Json.read? text with
  | some v => interpret (.ofValue v)
  | none => .error .contextNotJson

end ContextFile

end BraceTemplate
