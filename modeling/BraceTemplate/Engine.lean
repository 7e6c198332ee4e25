import BraceTemplate.EngineConfig
import BraceTemplate.Log
import BraceTemplate.ParseCache
import BraceTemplate.StoredPrompt
import BraceTemplate.Template.Diagnostic
import BraceTemplate.Template.Names
import BraceTemplate.Template.Rendering

/-!
# Engine

An engine has a configuration, functions, and the templates it has parsed. It answers requests one
after another; an answer comes with the engine as it is afterwards, the state of the host, and the
entries for the log.
-/

namespace BraceTemplate

/-- An engine; `parses` counts the trees it has built. -/
structure Engine (σ : Type) where
  config : EngineConfig
  registry : Registry σ
  cache : ParseCache
  parses : Nat

/-- What a caller gives as a template. -/
inductive TemplateSource where
  | text (source : Text)
  | prompt (p : StoredPrompt)

namespace TemplateSource

/-- The source of the template. -/
def toText : TemplateSource → Text
  | text source => source
  | prompt p => p.template

/-- The variables that are declared for it; a text alone declares none. -/
def declared : TemplateSource → List Text
  | text _ => []
  | prompt p => p.declared

end TemplateSource

/-- What an engine can be asked. -/
inductive Request (σ : Type) where
  /-- The tree of a template. -/
  | parse (template : TemplateSource)
  /-- The text of a template in a context. -/
  | render (template : TemplateSource) (context : Data)
  /-- What is wrong with the structure of a template. -/
  | validate (template : TemplateSource)
  /-- The variables that a template refers to. -/
  | names (template : TemplateSource)
  /-- Those of them that are not declared. -/
  | undeclared (template : TemplateSource)
  /-- A text before the text of a template; with an empty template, the text alone. -/
  | thinking (opening : Text) (template : TemplateSource) (context : Data)
  /-- A new function, or a new one for an old name. -/
  | register (name : Text) (callback : Callback σ) (minArguments : Option Number)
      (acceptsAbsent : Bool)
  /-- Forget what was parsed. -/
  | clear

/-- The answer to a request. -/
inductive Reply where
  | tree (tree : ParsedTree)
  | text (t : Text)
  | diagnostics (messages : List Text)
  | names (names : List Text)
  | done
  /-- Data or a thrown value could not be converted. -/
  | fault (f : Fault)
  | refused (e : RegistrationError)

/-- An answer with what it leaves behind. -/
structure Answered (σ α : Type) where
  answer : α
  engine : Engine σ
  host : σ
  log : List LogEntry

namespace LogEntry

/-- A function was registered. -/
def registered (name : Text) : LogEntry :=
  plain .debug (Text.concat ["Registered template function: ", name])

/-- The message about a parsed template that was driven out of a cache. -/
abbrev evictionMessage : Text := "Evicted parsed template from cache"

/-- A parsed template was driven out of a cache of this size. -/
def evicted (maxEntries : Nat) : LogEntry :=
  ofValue .debug evictionMessage (.mapping [("maxEntries", .ofNat maxEntries)])

/-- What an event of a render says in the log: calls that fail are reported. -/
def ofEvent? : Event → Option LogEntry
  | .invoked .. => none
  | .failed name message => some (ofValue .warn
      (Text.concat ["Template function ", name, "() failed"])
      (.mapping [("error", .text message)]))

end LogEntry

namespace Engine

variable {σ : Type}

/-- An engine of a configuration over functions, with the built-in ones added if it has any. -/
def create (config : EngineConfig) (clock : Clock σ) (registry : Registry σ) : Engine σ :=
  ⟨config, config.install clock registry, .empty, 0⟩

/-- The tree of a source: one that is kept, or a new one, which is then kept. -/
def lookup (e : Engine σ) (source : Text) : ParsedTree × Engine σ × List LogEntry :=
  let fresh : ParsedTree := ⟨Template.ofSource source, e.parses⟩
  let built := { e with parses := e.parses + 1 }
  if e.config.cache.enabled then
    match e.cache.find? source with
    | some tree => (tree, { e with cache := e.cache.touch source tree }, [])
    | none =>
      let cache := e.cache.touch source fresh
      let limit := e.config.cache.maxEntries.val
      if limit < cache.size then (fresh, { built with cache := cache.evict }, [.evicted limit])
      else (fresh, { built with cache }, [])
  else (fresh, built, [])

/-- The text of a source. The context is made after the source was parsed. -/
def render (e : Engine σ) (source : Text) (context : Data) (host : σ) :
    Answered σ (Except Fault Text) :=
  let (tree, e, log) := e.lookup source
  match Context.create context with
  | .error fault => ⟨.error fault, e, host, log⟩
  | .ok ctx =>
    let ran := tree.template.render e.registry ctx host
    ⟨ran.answer, e, ran.host, log ++ ran.events.filterMap LogEntry.ofEvent?⟩

/-- The variables that a source refers to. -/
def names (e : Engine σ) (source : Text) : List Text × Engine σ × List LogEntry :=
  let (tree, e, log) := e.lookup source
  (tree.template.names, e, log)

/-- A text as a reply. -/
def textReply : Except Fault Text → Reply
  | .ok t => .text t
  | .error fault => .fault fault

/-- Answers a request. -/
def handle (e : Engine σ) (request : Request σ) (host : σ) : Answered σ Reply :=
  match request with
  | .parse template =>
    let (tree, e, log) := e.lookup template.toText
    ⟨.tree tree, e, host, log⟩
  | .render template context =>
    let r := e.render template.toText context host
    ⟨textReply r.answer, r.engine, r.host, r.log⟩
  | .validate template => ⟨.diagnostics (BraceTemplate.validate template.toText), e, host, []⟩
  | .names template =>
    let (names, e, log) := e.names template.toText
    ⟨.names names, e, host, log⟩
  | .undeclared template =>
    let (names, e, log) := e.names template.toText
    ⟨.names (StoredPrompt.undeclared template.declared names), e, host, log⟩
  | .thinking opening template context =>
    if template.toText.isEmpty then ⟨.text opening, e, host, []⟩
    else
      let r := e.render template.toText context host
      ⟨textReply (r.answer.map fun t => Text.concat [opening, "\n\n", t]), r.engine, r.host, r.log⟩
  | .register name callback minArguments acceptsAbsent =>
    match e.registry.register name callback minArguments acceptsAbsent with
    | .ok registry => ⟨.done, { e with registry }, host, [.registered name]⟩
    | .error error => ⟨.refused error, e, host, []⟩
  | .clear => ⟨.done, { e with cache := .empty }, host, []⟩

end Engine

end BraceTemplate
