import BraceTemplate.Schema
import BraceTemplate.Date.Written

/-!
# Stored prompts

A stored prompt is the source of a template with what its author says about it. It is read from data,
where whatever else they hold is ignored, and it can be described by data again.
-/

namespace BraceTemplate

/-- The records that are read from data. -/
inductive RecordType where
  | prompt
  | thinking
deriving DecidableEq, Repr

def RecordType.word : RecordType → Text
  | prompt => "PromptTemplate"
  | thinking => "ThinkingTemplate"

/-- What is wrong with the data of a record. -/
structure DefinitionError where
  recordType : RecordType
  issues : List Issue
deriving Repr

/-- A heading and all issues. -/
def DefinitionError.message (e : DefinitionError) : Text :=
  Text.concat ["Invalid ", e.recordType.word, ":\n  - ",
    Text.join "\n  - " (e.issues.map Issue.toText)]

/-- A stored prompt; its metadata refer to the heap. -/
structure StoredPrompt where
  id : Text
  name : Text
  description : Text
  template : Text
  /-- The variables that the author declares. -/
  declared : List Text
  heap : Heap
  metadata : Mapping Datum
  created : Date
  updated : Date
  version : Text
  category : Text
  tags : List Text
deriving Repr

namespace StoredPrompt

/-- The fields of a stored prompt over a heap; a time that is not given is the present. -/
def fields (heap : Heap) (now : Date) : Fields StoredPrompt :=
  (fun id name description template declared metadata created updated version category tags =>
    { id, name, description, template, declared, heap, metadata
      created := created.elim now some
      updated := updated.elim now some
      version, category, tags })
  <$> .field "id" .nonEmptyText
  <*> .field "name" .nonEmptyText
  <*> .field "description" .text
  <*> .field "template" .text
  <*> .field "variables" (.withDefault (.listOf .text) [])
  <*> .field "metadata" (.withDefault .anyRecord [])
  <*> .field "createdAt" (.optional .date)
  <*> .field "updatedAt" (.optional .date)
  <*> .field "version" (.withDefault .text "1.0")
  <*> .field "category" (.withDefault .text "general")
  <*> .field "tags" (.withDefault (.listOf .text) [])

/-- The stored prompt that data describe. -/
def ofData (now : Date) (data : Data) : Except DefinitionError StoredPrompt :=
  ((fields data.heap now).record.check data).orElse fun issues => ⟨.prompt, issues⟩

/-- A list of texts as a datum. -/
def textList (texts : List Text) : Datum :=
  .value (.ofList (texts.map .text))

/-- The data that describe a stored prompt, its times given in some form. -/
def describe (p : StoredPrompt) (created updated : Datum) : Data :=
  let (heap, metadata) := p.heap.add (.record p.metadata)
  let (heap, root) := heap.add (.record
    [("id", .text p.id), ("name", .text p.name), ("description", .text p.description),
     ("template", .text p.template), ("variables", textList p.declared),
     ("metadata", metadata), ("createdAt", created), ("updatedAt", updated),
     ("version", .text p.version), ("category", .text p.category), ("tags", textList p.tags)])
  ⟨heap, root⟩

/-- A time in interchange form. -/
def timeText (d : Date) : Except Fault Datum :=
  match d with
  | some t => .ok (.text (Instant.isoText t))
  | none => .error .invalidTime

/-- The data that describe a stored prompt with its times as texts. -/
def toData (p : StoredPrompt) : Except Fault Data := do
  return p.describe (← timeText p.created) (← timeText p.updated)

/-- The names that a template refers to without their being declared. -/
def undeclared (declared names : List Text) : List Text :=
  names.filter fun name => !declared.contains name

end StoredPrompt

end BraceTemplate
