import BraceTemplate.Program
import BraceTemplate.Proofs.Evaluations
import BraceTemplate.Proofs.SharedRegistry

/-!
# Exit codes and streams

The program passes through stages: the settings, the arguments, the template, the context, the engine, and last the
command. Each stage before the last can fail, and then the program says so on the error stream and ends. The last one
cannot fail: built-in functions throw nothing without a text, and the context of a file can always be read. What it logs
is urgent, so the output is left to the result of the command.

* `Node.answers_renderAll` — a render over functions that report what they throw always answers;
* `Command.readable_contextOf` — the context of a command can be read;
* `Program.runCommand_eq` — what the last stage does;
* `exit_code_and_output` — the exit code and the output, for all arguments, files and variables.
-/

namespace BraceTemplate

variable {σ : Type}

/-! ## Renders that answer -/

/-- Whether every outcome of a function can be reported. -/
def Callback.Reports (c : Callback σ) : Prop :=
  ∀ heap args host, (c.run heap args host).1.HasText

/-- Whether all functions that are held report what they throw. -/
def Registry.Reports (registry : Registry σ) : Prop :=
  ∀ name d, registry.get? name = some d → d.callback.Reports

namespace Builtin

theorem reports_pureCallback (arity : Nat) (f : Heap → List Datum → Except Fault Data) :
    (pureCallback arity f : Callback σ).Reports := by
  intro heap args host
  unfold pureCallback
  simp only
  cases f heap args with
  | ok data => trivial
  | error fault => trivial

theorem reports_clockCallback (clock : Clock σ) (format : Date → Text) : (clockCallback clock format).Reports := by
  intro heap args host
  trivial

/-- A built-in function returns or fails with an error; it throws nothing else. -/
theorem reports_definitions (style : FunctionStyle) (clock : Clock σ) :
    ∀ d ∈ definitions style clock, d.callback.Reports := by
  simp only [definitions, plain, List.forall_mem_cons, reports_pureCallback, reports_clockCallback, List.not_mem_nil,
    false_implies, implies_true, and_self]

end Builtin

/-- The functions of an engine that was made over none are built-in ones. -/
theorem EngineConfig.reports_install (config : EngineConfig) (clock : Clock σ) :
    (config.install clock .empty).Reports := by
  intro name d hd
  have hbuiltin : d ∈ config.builtins clock := by
    rw [install_eq, Registry.get?_install] at hd
    exact List.mem_of_find?_eq_some hd
  unfold builtins at hbuiltin
  split at hbuiltin
  · exact Builtin.reports_definitions _ _ d hbuiltin
  · cases hbuiltin

namespace Render

variable {α β : Type}

/-- Whether a computation answers in every state of the host. -/
def Answers (m : Render σ α) : Prop :=
  ∀ host, Succeeds (m host).answer

theorem Answers.pure (a : α) : Answers (Pure.pure a : Render σ α) := by
  intro host
  exact succeeds_ok a

theorem Answers.bind {m : Render σ α} {next : α → Render σ β} (hm : Answers m) (hnext : ∀ a, Answers (next a)) :
    Answers (m >>= next) := by
  intro host
  rcases hm host with ⟨a, ha⟩
  rw [bind_of_ok ha]
  exact hnext a (m host).host

/-- What a renderer does between two calls answers by itself. -/
def answersRelation : Relation σ σ where
  Holds _ m := m.Answers
  pure := Answers.pure
  bind := Answers.bind

end Render

theorem Call.answers_evaluate {registry : Registry σ} (h : registry.Reports) (ctx : Context) (c : Call) :
    (c.evaluate registry ctx).Answers := by
  unfold evaluate
  cases hfunction : registry.get? c.name with
  | none => exact .pure none
  | some d =>
    have hinvoke : ∀ values, (d.invoke values).Answers := by
      intro values host
      rw [d.invoke_eq]
      exact (Outcome.succeeds_answer_iff _).2 (h c.name d hfunction _ _ _)
    simp only
    split
    · exact .pure none
    · cases d.accept? (c.arguments.map (Argument.resolve? ctx)) with
      | none => exact .pure none
      | some values => exact (hinvoke values).bind fun result => .pure _

/-- Over functions that report what they throw a template always has a text. -/
theorem Node.answers_renderAll {registry : Registry σ} (h : registry.Reports) (nodes : List Node) (ctx : Context) :
    (renderAll registry ctx nodes).Answers := by
  have hcalls : ∀ ctx, ∀ c ∈ allCalls nodes, (registry.evaluator ctx c).Answers := by
    intro ctx c _
    exact c.answers_evaluate h ctx
  have hnodes : Render.answersRelation.Holds (renderAllBy registry.evaluator ctx nodes)
      (renderAllBy registry.evaluator ctx nodes) := related_renderAllBy _ hcalls ctx
  rw [renderAllBy_evaluate] at hnodes
  exact hnodes

/-! ## Contexts that can be read -/

/-- Whether no container is a keyed map. -/
def Heap.MapFree (h : Heap) : Prop :=
  ∀ (id : Nat) (entries : List (Datum × Datum)), h[id]? ≠ some (.map entries)

namespace ContextFile

theorem mapFree_add_record {h : Heap} (hmaps : h.MapFree) (entries : Mapping Datum) :
    (h.add (.record entries)).1.MapFree := by
  intro id found hfound
  simp only [Heap.add, Array.getElem?_push] at hfound
  split at hfound
  · cases hfound
  · exact hmaps id found hfound

theorem mapFree_place {h : Heap} (hmaps : h.MapFree) (held : Namespace) : (place h held).1.MapFree := by
  cases held with
  | absent => exact hmaps
  | null => exact hmaps
  | entries m => exact mapFree_add_record hmaps m

/-- Namespaces without keyed maps can be read, whatever they hold. -/
theorem readable_contextData {h : Heap} (hmaps : h.MapFree) (bindings conversation user : Namespace) :
    (contextData h bindings conversation user).Readable := by
  constructor
  · intro hnull
    cases hnull
  · intro key _ inner _ id _ entries hmap
    exact absurd hmap
      (mapFree_add_record (mapFree_place (mapFree_place (mapFree_place hmaps _) _) _) _ id entries)

theorem readable_read {text : Text} {context : Data} (h : read text = .ok context) : context.Readable := by
  have hmaps : Heap.MapFree #[] := by
    intro id entries hmap
    simp at hmap
  unfold read at h
  split at h
  · unfold interpret at h
    simp only at h
    split at h
    · cases h
    · split at h
      · split at h
        · cases h
          exact readable_contextData hmaps ..
        · cases h
      · cases h
        exact readable_contextData hmaps ..
  · cases h

end ContextFile

/-- The context of a command can be read, whether it is that of a file or empty. -/
theorem Command.readable_contextOf {a : Arguments} {files : FileTree} {base : Location} {context : Data}
    (h : contextOf a files base = .ok context) : context.Readable := by
  unfold contextOf at h
  split at h
  · cases h
    refine ⟨by simp, ?_⟩
    intro key _ inner _ id _ entries hmap
    simp at hmap
  · simp only [bind, Except.bind] at h
    split at h
    · cases h
    · rename_i text _
      cases hread : ContextFile.read text with
      | error e =>
        rw [hread] at h
        cases h
      | ok found =>
        rw [hread] at h
        cases h
        exact ContextFile.readable_read hread

/-! ## The log of one command -/

/-- An engine that was just made drives nothing out: it has room for one tree at least. -/
theorem Engine.log_lookup_create (config : EngineConfig) (clock : Clock σ) (registry : Registry σ) (source : Text) :
    ((create config clock registry).lookup source).2.2 = [] := by
  have hroom : 0 < config.cache.maxEntries.val := config.cache.maxEntries.property
  cases hon : config.cache.enabled with
  | false =>
    rw [lookup_of_disabled hon]
  | true =>
    have hlookup := lookup_of_find?_none (e := create config clock registry) (s := source) hon rfl
    rw [hlookup]
    have hsize : ((create config clock registry).cache.touch source
        ⟨Template.ofSource source, (create config clock registry).parses⟩).size = 1 := rfl
    have hfits : ¬ (create config clock registry).limit < 1 := by
      show ¬ config.cache.maxEntries.val < 1
      omega
    simp only [hsize, if_neg hfits]

namespace LogWriter

/-- A writer without a file hands the console nothing but entries of the log, each at its level. -/
theorem exists_of_mem_consoleLines {w : LogWriter} (hfile : w.file = none) {timestamp : Text}
    {entries : List LogEntry} {line : ConsoleLine} (h : line ∈ w.consoleLines timestamp entries) :
    ∃ e ∈ entries, line.level = e.level := by
  rcases List.mem_flatMap.1 h with ⟨e, he, hline⟩
  refine ⟨e, he, ?_⟩
  unfold write at hline
  split at hline
  · rename_i lines _ hwritten
    split at hwritten
    · rcases exists_of_bind_eq_ok hwritten with ⟨text, -, hshown⟩
      rw [hfile] at hshown
      cases hshown
      split at hline
      · rw [List.mem_singleton.1 hline]
      · cases hline
    · cases hwritten
      cases hline
  · cases hline

end LogWriter

/-! ## The command -/

namespace Command

theorem modeOf_eq_validate_iff (a : Arguments) : modeOf a = .validate ↔ a.validate = true := by
  unfold modeOf
  split
  · rename_i hvalidate
    exact iff_of_true rfl hvalidate
  · rename_i hvalidate
    refine iff_of_false ?_ hvalidate
    split
    · decide
    · decide

/-- A command always has a result with a new engine, and all that it logs are warnings. Only the structure of a
template gives another exit code than zero. -/
theorem run_create (c : Command) (config : EngineConfig) (clock : Clock σ) (host : σ) (h : c.context.Readable) :
    ∃ r, (c.run (Engine.create config clock .empty) host).answer = .ok r ∧
      (∀ e ∈ (c.run (Engine.create config clock .empty) host).log, e.isWarning) ∧
      r.exitCode = if c.mode = .validate ∧ validate c.template ≠ [] then CommandResult.problemCode else 0 := by
  have hlookup := Engine.log_lookup_create config clock .empty c.template
  cases hmode : c.mode with
  | validate =>
    simp only [run, hmode]
    refine ⟨_, rfl, by simp, ?_⟩
    unfold validationResult
    cases hvalid : validate c.template with
    | nil =>
      simp only [List.isEmpty_nil, if_true]
      split
      · simp
      · simp [CommandResult.success]
    | cons message rest =>
      simp only [List.isEmpty_cons, Bool.false_eq_true, if_false]
      split
      · simp
      · simp
  | names =>
    simp only [run, hmode, Engine.names, hlookup]
    exact ⟨_, rfl, by simp, by simp [CommandResult.success]⟩
  | render =>
    rcases (succeeds_create_iff c.context).2 h with ⟨ctx, hctx⟩
    have hreports : (Engine.create config clock .empty).registry.Reports := config.reports_install clock
    rcases Node.answers_renderAll hreports
      ((Engine.create config clock .empty).lookup c.template).1.template ctx host with ⟨text, htext⟩
    simp only [run, hmode, Engine.render_of_ok hctx, hlookup, List.nil_append, htext]
    refine ⟨_, rfl, ?_, by simp [CommandResult.success]⟩
    intro e he
    rw [← LogEntry.filter_isWarning_events] at he
    exact (List.mem_filter.1 he).2

end Command

/-! ## The program -/

namespace Program

/-- Warnings are urgent: they go to the error stream. -/
theorem streamLines_eq_nil {level : LogLevel} {timestamp : Text} {entries : List LogEntry}
    (h : ∀ e ∈ entries, e.isWarning) :
    streamLines false ((LogWriter.forEngine level).consoleLines timestamp entries) = [] := by
  unfold streamLines
  rw [List.map_eq_nil_iff, List.filter_eq_nil_iff]
  intro line hline
  rcases LogWriter.exists_of_mem_consoleLines rfl hline with ⟨e, he, hlevel⟩
  have hwarn : e.level = .warn := of_decide_eq_true (h e he)
  rw [hlevel, hwarn]
  decide

theorem runCommand_of_error {c : Command} {env : Environment} {level : LogLevel} {now : Date} {timestamp : Text}
    {e : ConfigurationFault} (h : EngineConfig.loadEnvironment env = .error e) :
    runCommand c env level now timestamp = failure e.message := by
  simp only [runCommand, h]

/-- The last stage: with an engine the command has a result, and its lines are all that is written to the output. -/
theorem runCommand_eq {c : Command} {env : Environment} {config : EngineConfig}
    (hconfig : EngineConfig.loadEnvironment env = .ok config) (hcontext : c.context.Readable) (level : LogLevel)
    (now : Date) (timestamp : Text) :
    ∃ r, (c.run (Engine.create config (fun date : Date => date) .empty) now).answer = .ok r ∧
      (runCommand c env level now timestamp).exitCode = r.exitCode ∧
      (runCommand c env level now timestamp).output = r.output ∧
      r.exitCode = if c.mode = .validate ∧ validate c.template ≠ [] then CommandResult.problemCode else 0 := by
  rcases c.run_create config (fun date : Date => date) now hcontext with ⟨r, hanswer, hwarnings, hcode⟩
  refine ⟨r, hanswer, ?_, ?_, hcode⟩
  · simp only [runCommand, hconfig, hanswer]
  · simp only [runCommand, hconfig, hanswer, streamLines_eq_nil hwarnings, List.nil_append]

/-! ### Stages -/

section Stages

variable (arguments : List Text) (env : Environment) (files : FileTree) (base : Location)

/-- Whether the settings can be read and have known values. -/
def Configured : Prop :=
  ∃ s, AppSettings.read env = .ok s ∧ s.check = .ok ()

/-- Whether arguments ask for help. -/
def AsksHelp : Prop :=
  ∃ a, Arguments.read arguments = .ok a ∧ a.help = true

/-- Whether arguments choose these options, help not among them. -/
def Chosen (a : Arguments) : Prop :=
  Arguments.read arguments = .ok a ∧ a.help = false

/-- Whether options name one source at most, and one mode. -/
def Coherent (a : Arguments) : Prop :=
  ¬ (a.template.isSome ∧ a.inlineText.isSome) ∧ ¬ (a.validate ∧ a.listNames)

/-- The failure of one stage, after all stages before it succeeded. -/
inductive Fails : Prop where
  | environment (e : SettingError) : AppSettings.read env = .error e → Fails
  | settings {s : AppSettings} (e : SettingError) : AppSettings.read env = .ok s → s.check = .error e → Fails
  | arguments (e : ArgumentError) : Configured env → Arguments.read arguments = .error e → Fails
  | options {a : Arguments} : Configured env → Chosen arguments a → ¬ Coherent a → Fails
  | template {a : Arguments} (e : CommandError) : Configured env → Chosen arguments a → Coherent a →
      Command.templateText a files base = .error e → Fails
  | context {a : Arguments} {template : Text} (e : CommandError) : Configured env → Chosen arguments a → Coherent a →
      Command.templateText a files base = .ok template → Command.contextOf a files base = .error e → Fails
  | engine {a : Arguments} {template : Text} {context : Data} (e : ConfigurationFault) : Configured env →
      Chosen arguments a → Coherent a → Command.templateText a files base = .ok template →
      Command.contextOf a files base = .ok context → EngineConfig.loadEnvironment env = .error e → Fails

/-- The success of all stages before the command, with what they give. -/
structure Prepared (a : Arguments) (template : Text) (context : Data) (config : EngineConfig) : Prop where
  configured : Configured env
  chosen : Chosen arguments a
  coherent : Coherent a
  template : Command.templateText a files base = .ok template
  context : Command.contextOf a files base = .ok context
  engine : EngineConfig.loadEnvironment env = .ok config

end Stages

variable {arguments : List Text} {env : Environment} {files : FileTree} {base : Location}

/-- What arguments that can be read come to. -/
theorem ofArguments_of_read {a : Arguments} (h : Arguments.read arguments = .ok a) :
    Command.ofArguments arguments files base =
      if a.help then .ok none
      else if a.template.isSome && a.inlineText.isSome then .error (.input .templateTwice)
      else if a.validate && a.listNames then .error (.input .modeTwice)
      else match Command.templateText a files base with
        | .error e => .error e
        | .ok template => match Command.contextOf a files base with
          | .error e => .error e
          | .ok context => .ok (some ⟨Command.modeOf a, template, context, a.json⟩) := by
  have hread : (Arguments.read arguments).mapError CommandError.arguments = .ok a := by
    rw [h]
    rfl
  rw [Command.ofArguments, hread]
  show (if a.help then _ else _) = _
  split
  · rfl
  · split
    · rfl
    · split
      · rfl
      · show (Command.templateText a files base >>= fun template => _) = _
        cases Command.templateText a files base with
        | error e => rfl
        | ok template =>
          show (Command.contextOf a files base >>= fun context => _) = _
          cases Command.contextOf a files base with
          | error e => rfl
          | ok context => rfl

/-- What arguments come to once the settings were read: the failure of a stage, help, or a command. -/
theorem ofArguments_cases (hconfigured : Configured env) :
    (∃ e, Command.ofArguments arguments files base = .error e ∧ Fails arguments env files base) ∨
    (Command.ofArguments arguments files base = .ok none ∧ AsksHelp arguments) ∨
    ∃ a template context,
      Command.ofArguments arguments files base = .ok (some ⟨Command.modeOf a, template, context, a.json⟩) ∧
      Chosen arguments a ∧ Coherent a ∧ Command.templateText a files base = .ok template ∧
      Command.contextOf a files base = .ok context := by
  cases hread : Arguments.read arguments with
  | error e =>
    refine .inl ⟨.arguments e, ?_, .arguments e hconfigured hread⟩
    rw [Command.ofArguments, hread]
    rfl
  | ok a =>
    rw [ofArguments_of_read hread]
    by_cases hhelp : a.help = true
    · rw [if_pos hhelp]
      exact .inr (.inl ⟨rfl, a, hread, hhelp⟩)
    have hchosen : Chosen arguments a := ⟨hread, Bool.eq_false_iff.2 hhelp⟩
    rw [if_neg hhelp]
    -- the stages from here on, each with those before it behind it
    split
    · rename_i htwice
      rw [Bool.and_eq_true] at htwice
      exact .inl ⟨_, rfl, .options hconfigured hchosen fun hcoherent => hcoherent.1 htwice⟩
    · rename_i hsource
      rw [Bool.and_eq_true] at hsource
      split
      · rename_i htwice
        rw [Bool.and_eq_true] at htwice
        exact .inl ⟨_, rfl, .options hconfigured hchosen fun hcoherent => hcoherent.2 htwice⟩
      · rename_i hmode
        rw [Bool.and_eq_true] at hmode
        have hcoherent : Coherent a := ⟨hsource, hmode⟩
        cases htemplate : Command.templateText a files base with
        | error e => exact .inl ⟨e, rfl, .template e hconfigured hchosen hcoherent htemplate⟩
        | ok template =>
          cases hcontext : Command.contextOf a files base with
          | error e => exact .inl ⟨e, rfl, .context e hconfigured hchosen hcoherent htemplate hcontext⟩
          | ok context =>
            exact .inr (.inr ⟨a, template, context, rfl, hchosen, hcoherent, htemplate, hcontext⟩)

/-- The settings, if their values are known. -/
def checkedSettings (env : Environment) : Except SettingError AppSettings := do
  let settings ← AppSettings.read env
  settings.check
  return settings

theorem configured_of_checkedSettings {s : AppSettings} (h : checkedSettings env = .ok s) : Configured env := by
  unfold checkedSettings at h
  cases hread : AppSettings.read env with
  | error e =>
    rw [hread] at h
    cases h
  | ok read =>
    rw [hread] at h
    refine ⟨read, hread, ?_⟩
    cases hcheck : read.check with
    | error e =>
      simp only [bind, Except.bind, hcheck] at h
      cases h
    | ok checked => rfl

theorem fails_of_checkedSettings {e : SettingError} (h : checkedSettings env = .error e) :
    Fails arguments env files base := by
  unfold checkedSettings at h
  cases hread : AppSettings.read env with
  | error e => exact .environment e hread
  | ok read =>
    cases hcheck : read.check with
    | error e => exact .settings e hread hcheck
    | ok checked =>
      simp only [hread, bind, Except.bind, hcheck] at h
      cases h

section Run

variable {reader : Text → Environment} {now : Date} {timestamp : Text} {s : AppSettings}

theorem run_of_unsettled {e : SettingError} (h : checkedSettings (surroundings reader env files base) = .error e) :
    run reader arguments env files base now timestamp = failure e.message := by
  unfold checkedSettings at h
  simp only [run, h]

variable (h : checkedSettings (surroundings reader env files base) = .ok s)
include h

theorem run_of_refused {e : CommandError} (harguments : Command.ofArguments arguments files base = .error e) :
    run reader arguments env files base now timestamp = failure e.message := by
  unfold checkedSettings at h
  simp only [run, h, harguments]

theorem run_of_help (harguments : Command.ofArguments arguments files base = .ok none) :
    run reader arguments env files base now timestamp = .success [help] := by
  unfold checkedSettings at h
  simp only [run, h, harguments]

theorem run_of_command {c : Command} (harguments : Command.ofArguments arguments files base = .ok (some c)) :
    run reader arguments env files base now timestamp =
      runCommand c (surroundings reader env files base) s.level now timestamp := by
  unfold checkedSettings at h
  simp only [run, h, harguments]

end Run

/-- What the program comes to: the failure of a stage, help, or the result of a command. -/
theorem run_cases (reader : Text → Environment) (arguments : List Text) (env : Environment) (files : FileTree)
    (base : Location) (now : Date) (timestamp : Text) :
    let surrounded := surroundings reader env files base
    let result := run reader arguments env files base now timestamp
    (Fails arguments surrounded files base ∧ ∃ message, result = failure message) ∨
    (Configured surrounded ∧ AsksHelp arguments ∧ result = .success [help]) ∨
    ∃ a template context config, Prepared arguments surrounded files base a template context config ∧
      ∃ level, result = runCommand ⟨Command.modeOf a, template, context, a.json⟩ surrounded level now timestamp := by
  intro surrounded result
  cases hsettings : checkedSettings surrounded with
  | error e => exact .inl ⟨fails_of_checkedSettings hsettings, e.message, run_of_unsettled hsettings⟩
  | ok s =>
    have hconfigured := configured_of_checkedSettings hsettings
    rcases ofArguments_cases hconfigured with ⟨e, harguments, hfails⟩ | ⟨harguments, hhelp⟩ |
      ⟨a, template, context, harguments, hchosen, hcoherent, htemplate, hcontext⟩
    · exact .inl ⟨hfails, e.message, run_of_refused hsettings harguments⟩
    · exact .inr (.inl ⟨hconfigured, hhelp, run_of_help hsettings harguments⟩)
    · have hresult : result = runCommand _ surrounded s.level now timestamp := run_of_command hsettings harguments
      cases hconfig : EngineConfig.loadEnvironment surrounded with
      | error e =>
        refine .inl ⟨.engine e hconfigured hchosen hcoherent htemplate hcontext hconfig, e.message, ?_⟩
        exact hresult.trans (runCommand_of_error hconfig)
      | ok config =>
        exact .inr (.inr ⟨a, template, context, config,
          ⟨hconfigured, hchosen, hcoherent, htemplate, hcontext, hconfig⟩, s.level, hresult⟩)

/-- What is prepared comes to a result, which is all that is written to the output, and its code is two where the
structure was asked for and is not sound, and else zero. -/
theorem Prepared.runCommand_result {a : Arguments} {template : Text} {context : Data} {config : EngineConfig}
    (h : Prepared arguments env files base a template context config) (level : LogLevel) (now : Date)
    (timestamp : Text) :
    let command : Command := ⟨Command.modeOf a, template, context, a.json⟩
    let result := runCommand command env level now timestamp
    (∃ r, (command.run (Engine.create config (fun date : Date => date) .empty) now).answer = .ok r ∧
      result.output = r.output ∧ result.exitCode = r.exitCode) ∧
    result.exitCode ≠ 1 ∧ (result.exitCode = 2 ↔ a.validate = true ∧ validate template ≠ []) ∧
    (result.exitCode = 0 ∨ result.exitCode = 1 ∨ result.exitCode = 2) := by
  intro command result
  rcases runCommand_eq (c := command) h.engine (Command.readable_contextOf h.context) level now timestamp with
    ⟨r, hanswer, hcode, houtput, hexit⟩
  refine ⟨⟨r, hanswer, houtput, hcode⟩, ?_⟩
  have hresult : result.exitCode = if a.validate = true ∧ validate template ≠ [] then CommandResult.problemCode else 0 := by
    rw [hcode, hexit]
    simp only [command, Command.modeOf_eq_validate_iff]
  rw [hresult]
  split
  · rename_i hproblems
    exact ⟨by decide, iff_of_true rfl hproblems, .inr (.inr rfl)⟩
  · rename_i hsound
    exact ⟨by decide, iff_of_false (by decide) hsound, .inl rfl⟩

/-! ### The three exclude each other -/

theorem Configured.read_ne {e : SettingError} (h : Configured env) : AppSettings.read env ≠ .error e := by
  intro hread
  rcases h with ⟨s, hs, -⟩
  rw [hread] at hs
  cases hs

theorem Configured.check_ne {s : AppSettings} {e : SettingError} (h : Configured env)
    (hread : AppSettings.read env = .ok s) : s.check ≠ .error e := by
  intro hcheck
  rcases h with ⟨s', hs, hchecked⟩
  obtain rfl := Except.ok.inj (hread.symm.trans hs)
  rw [hcheck] at hchecked
  cases hchecked

theorem Chosen.unique {a a' : Arguments} (h : Chosen arguments a) (h' : Chosen arguments a') : a = a' :=
  Except.ok.inj (h.1.symm.trans h'.1)

theorem Chosen.not_asksHelp {a : Arguments} (h : Chosen arguments a) : ¬ AsksHelp arguments := by
  rintro ⟨b, hread, hhelp⟩
  obtain rfl : a = b := Except.ok.inj (h.1.symm.trans hread)
  rw [h.2] at hhelp
  cases hhelp

/-- What is prepared follows from the arguments, the files and the variables. -/
theorem Prepared.unique {a a' : Arguments} {template template' : Text} {context context' : Data}
    {config config' : EngineConfig} (h : Prepared arguments env files base a template context config)
    (h' : Prepared arguments env files base a' template' context' config') : a = a' ∧ template = template' := by
  obtain rfl := h.chosen.unique h'.chosen
  exact ⟨rfl, Except.ok.inj (h.template.symm.trans h'.template)⟩

/-- Once the settings were read, no stage fails before help is given. -/
theorem Fails.not_asksHelp (hfails : Fails arguments env files base) (hconfigured : Configured env) :
    ¬ AsksHelp arguments := by
  -- the settings come before the arguments, and all stages behind these are for arguments that do not ask for help
  cases hfails with
  | environment e hread => exact absurd hread hconfigured.read_ne
  | settings e hread hcheck => exact absurd hcheck (hconfigured.check_ne hread)
  | arguments e _ hread =>
    rintro ⟨a, ha, -⟩
    rw [hread] at ha
    cases ha
  | options _ hchosen => exact hchosen.not_asksHelp
  | template e _ hchosen => exact hchosen.not_asksHelp
  | context e _ hchosen => exact hchosen.not_asksHelp
  | engine e _ hchosen => exact hchosen.not_asksHelp

/-- Where a stage fails, nothing is prepared. -/
theorem Fails.not_prepared (hfails : Fails arguments env files base) {a : Arguments} {template : Text} {context : Data}
    {config : EngineConfig} : ¬ Prepared arguments env files base a template context config := by
  intro hprepared
  -- each stage has one result, and the failing one is among those that succeeded
  cases hfails with
  | environment e hread => exact hprepared.configured.read_ne hread
  | settings e hread hcheck => exact hprepared.configured.check_ne hread hcheck
  | arguments e _ hread =>
    rw [hprepared.chosen.1] at hread
    cases hread
  | options _ hchosen hincoherent =>
    obtain rfl := hchosen.unique hprepared.chosen
    exact hincoherent hprepared.coherent
  | template e _ hchosen _ htemplate =>
    obtain rfl := hchosen.unique hprepared.chosen
    rw [hprepared.template] at htemplate
    cases htemplate
  | context e _ hchosen _ _ hcontext =>
    obtain rfl := hchosen.unique hprepared.chosen
    rw [hprepared.context] at hcontext
    cases hcontext
  | engine e _ _ _ _ _ hengine =>
    rw [hprepared.engine] at hengine
    cases hengine

end Program

/-- The exit code and the output of the program, for all arguments, files and variables, whatever finds variables in the
text of their file.

The program exits with two exactly if every stage was passed and the structure of the template was asked for and is not
sound; with one exactly if a stage failed, after those before it succeeded; and else with zero. When it exits with one,
nothing was written to the output. Otherwise the output is the help, if that was asked for, or else the lines of the
command's result, which there is then, and the exit code is that of the result. -/
theorem exit_code_and_output (reader : Text → Environment) (arguments : List Text) (env : Environment)
    (files : FileTree) (base : Location) (now : Date) (timestamp : Text) :
    let surrounded := Program.surroundings reader env files base
    let result := Program.run reader arguments env files base now timestamp
    (result.exitCode = 2 ↔ ∃ a template context config,
      Program.Prepared arguments surrounded files base a template context config ∧ a.validate = true ∧
        validate template ≠ []) ∧
    (result.exitCode = 1 ↔ Program.Fails arguments surrounded files base) ∧
    (result.exitCode = 0 ∨ result.exitCode = 1 ∨ result.exitCode = 2) ∧
    (result.exitCode = 1 → result.output = []) ∧
    (result.exitCode ≠ 1 →
      (Program.AsksHelp arguments ∧ result.output = [Program.help]) ∨
      ∃ a template context config r,
        Program.Prepared arguments surrounded files base a template context config ∧
        (Command.run ⟨Command.modeOf a, template, context, a.json⟩
          (Engine.create config (fun date : Date => date) .empty) now).answer = .ok r ∧
        result.output = r.output ∧ result.exitCode = r.exitCode) := by
  intro surrounded result
  rcases Program.run_cases reader arguments env files base now timestamp with
    ⟨hfails, message, hresult⟩ | ⟨hconfigured, hhelp, hresult⟩ | ⟨a, template, context, config, hprepared, level, hresult⟩
  · have hcode : result.exitCode = 1 := congrArg CommandResult.exitCode hresult
    have houtput : result.output = [] := congrArg CommandResult.output hresult
    refine ⟨?_, ⟨fun _ => hfails, fun _ => hcode⟩, .inr (.inl hcode), fun _ => houtput, fun hne => absurd hcode hne⟩
    rw [hcode]
    constructor
    · intro h
      cases h
    · rintro ⟨a, template, context, config, hprepared, -⟩
      exact absurd hprepared hfails.not_prepared
  · have hcode : result.exitCode = 0 := congrArg CommandResult.exitCode hresult
    have houtput : result.output = [Program.help] := congrArg CommandResult.output hresult
    rw [hcode]
    refine ⟨?_, ?_, .inl rfl, fun h => absurd h (by decide), fun _ => .inl ⟨hhelp, houtput⟩⟩
    · constructor
      · intro h
        cases h
      · rintro ⟨a, template, context, config, hprepared, -⟩
        exact absurd hhelp hprepared.chosen.not_asksHelp
    · constructor
      · intro h
        cases h
      · intro hfails
        exact absurd hhelp (hfails.not_asksHelp hconfigured)
  · rcases hprepared.runCommand_result level now timestamp with ⟨⟨r, hanswer, houtput, hcode⟩, hnot, htwo, hcodes⟩
    rw [← hresult] at houtput hcode hnot htwo hcodes
    refine ⟨htwo.trans ?_, iff_of_false hnot fun hfails => hfails.not_prepared hprepared, hcodes,
      fun hone => absurd hone hnot, fun _ => .inr ⟨a, template, context, config, r, hprepared, hanswer, houtput, hcode⟩⟩
    constructor
    · rintro ⟨hmode, hproblems⟩
      exact ⟨a, template, context, config, hprepared, hmode, hproblems⟩
    · rintro ⟨a', template', context', config', hprepared', hmode, hproblems⟩
      rcases hprepared.unique hprepared' with ⟨rfl, rfl⟩
      exact ⟨hmode, hproblems⟩

/-- A call that fails is reported on the error stream, and the output is the rendered text alone. -/
example : let source := Text.ofString "{join(1)}"
    let result := Program.run (fun _ => []) ["--inline", source] [] ⟨[], []⟩ [] none []
    result.exitCode = 0 ∧ result.output = [source] ∧ result.errors.length = 1 := by
  decide +kernel

end BraceTemplate
