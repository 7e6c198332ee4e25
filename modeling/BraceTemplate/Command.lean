import BraceTemplate.Command.Arguments
import BraceTemplate.Command.ContextFile
import BraceTemplate.Engine

/-!
# The command

One command renders a template, checks its structure, or lists its variables. What it does follows
from its arguments and the files that they name; what it writes goes line by line to the output or to
the errors.
-/

namespace BraceTemplate

/-- What the command does with its template. -/
inductive CommandMode where
  | render
  | validate
  | names
deriving DecidableEq, Repr

def CommandMode.word : CommandMode → Text
  | render => "render"
  | validate => "validate"
  | names => "variables"

/-- A command: what to do, with which template and context, and whether to answer in JSON. -/
structure Command where
  mode : CommandMode
  template : Text
  context : Data
  json : Bool

/-- Why there is no command. -/
inductive CommandError where
  | arguments (e : ArgumentError)
  | input (e : InputError)
  | file (e : FileFault)
deriving Repr

def CommandError.message : CommandError → Text
  | arguments e => e.message
  | input e => e.message
  | file e => e.message

namespace Command

/-- The text of a file that has to be there. -/
def readFile (files : FileTree) (l : Location) (missing : InputError) : Except CommandError Text :=
  match files.state l with
  | .file text => .ok text
  | .directory => .error (.file .readDirectory)
  | .missing => .error (.input missing)

/-- The template that the arguments name or hold. -/
def templateText (a : Arguments) (files : FileTree) (base : Location) : Except CommandError Text :=
  match a.template, a.inlineText with
  | some path, _ =>
    let l := Location.ofText base path
    readFile files l (.templateMissing l)
  | none, some text => .ok text
  | none, none => .error (.input .noTemplate)

/-- The context in the file that the arguments name, or else an empty one. -/
def contextOf (a : Arguments) (files : FileTree) (base : Location) : Except CommandError Data :=
  match a.context with
  | none => .ok (.ofValue (.mapping []))
  | some path => do
    let l := Location.ofText base path
    let text ← readFile files l (.contextMissing l)
    (ContextFile.read text).mapError .input

/-- The mode that the arguments choose. -/
def modeOf (a : Arguments) : CommandMode :=
  if a.validate then .validate else if a.listNames then .names else .render

/-- The command that arguments choose; none if they ask for help. -/
def ofArguments (arguments : List Text) (files : FileTree) (base : Location) :
    Except CommandError (Option Command) := do
  let a ← (Arguments.read arguments).mapError .arguments
  if a.help then return none
  if a.template.isSome && a.inlineText.isSome then throw (.input .templateTwice)
  if a.validate && a.listNames then throw (.input .modeTwice)
  let text ← templateText a files base
  let data ← contextOf a files base
  return some ⟨modeOf a, text, data, a.json⟩

end Command

/-- What a command writes, and how it ends. -/
structure CommandResult where
  exitCode : Nat
  output : List Text
  errors : List Text
deriving DecidableEq, Repr

namespace CommandResult

/-- A result that is good. -/
def success (output : List Text) : CommandResult := ⟨0, output, []⟩

/-- The exit code of a template with problems. -/
def problemCode : Nat := 2

end CommandResult

namespace Command

variable {σ : Type}

/-- Texts as a value. -/
def textList (texts : List Text) : Value :=
  .ofList (texts.map .text)

/-- An answer in JSON: the mode, then what was found. -/
def jsonLines (mode : CommandMode) (found : Mapping Value) : List Text :=
  [Json.pretty (.mapping (("mode", .text mode.word) :: found))]

/-- What is answered about the structure of a template. -/
def validationResult (json : Bool) (diagnostics : List Text) : CommandResult :=
  let valid := diagnostics.isEmpty
  let code := if valid then 0 else CommandResult.problemCode
  if json then
    ⟨code, jsonLines .validate [("valid", .bool valid), ("diagnostics", textList diagnostics)], []⟩
  else if valid then .success ["Template is valid."]
  else ⟨code, [], diagnostics.map fun message => Text.concat ["  - ", message]⟩

/-- Runs a command with an engine. -/
def run (c : Command) (e : Engine σ) (host : σ) : Answered σ (Except Fault CommandResult) :=
  match c.mode with
  | .validate => ⟨.ok (validationResult c.json (validate c.template)), e, host, []⟩
  | .names =>
    let (names, e, log) := e.names c.template
    let lines := if c.json then jsonLines .names [("variables", textList names)] else names
    ⟨.ok (.success lines), e, host, log⟩
  | .render =>
    let r := e.render c.template c.context host
    let result := r.answer.map fun text =>
      CommandResult.success (if c.json then
        jsonLines .render [("rendered", .text text),
          ("diagnostics", textList (validate c.template))]
      else [text])
    ⟨result, r.engine, r.host, r.log⟩

end Command

end BraceTemplate
