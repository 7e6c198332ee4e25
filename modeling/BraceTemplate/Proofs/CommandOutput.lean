import BraceTemplate.Proofs.Comparisons
import BraceTemplate.Proofs.ExitCodes
import BraceTemplate.Proofs.JsonTexts
import BraceTemplate.Proofs.Transparency

/-!
# The output of a command in JSON

A command answers in lines of text, or in one JSON text. Both carry the same result: the JSON text is read back as an
object with a field for what the lines show, unit for unit. This holds on any two engines with the built-in functions
and a clock that stands still, whatever they were asked before. Neither run has an answer exactly if a template is to be
rendered in a context that cannot be read.

* `Node.isSteady_renderAll` — what is rendered does not depend on the state of the host;
* `Command.read?_jsonLines` — an answer in JSON is read back;
* `Command.outputs_agree_iff` — both outputs of a command.
-/

namespace BraceTemplate

variable {σ : Type}

/-! ## Engines with the built-in functions -/

/-- Whether all functions that are held depend on their arguments only. -/
def Registry.IsPure (registry : Registry σ) : Prop :=
  ∀ name d, registry.get? name = some d → d.callback.IsPure

theorem Builtin.isPure_clockCallback (now : Date) (format : Date → Text) :
    (clockCallback (fun _ => now) format : Callback σ).IsPure :=
  ⟨fun _ _ => .returned (textResult (format now)), fun _ _ _ => rfl⟩

theorem Builtin.isPure_definitions (style : FunctionStyle) (now : Date) :
    ∀ d ∈ (definitions style (fun _ => now) : List (Definition σ)), d.callback.IsPure := by
  simp only [definitions, plain, List.forall_mem_cons, isPure_pureCallback, isPure_clockCallback, List.not_mem_nil,
    false_implies, implies_true, and_self]

theorem Builtin.mem_definitions_of_get? {style : FunctionStyle} {clock : Clock σ} {name : Text} {d : Definition σ}
    (h : (Registry.install .empty (definitions style clock)).get? name = some d) : d ∈ definitions style clock := by
  have hfind : (definitions style clock).find? (fun d => decide (d.name = name)) = some d := by
    rw [Registry.get?_install] at h
    exact h
  exact List.mem_of_find?_eq_some hfind

/-- What a renderer does between two calls is steady by itself. -/
def Render.steadyRelation : Relation σ σ where
  Holds _ m := m.IsSteady
  pure := IsSteady.pure
  bind := IsSteady.bind

/-- Over functions that depend on their arguments only, a template has the same text in every state of the host. -/
theorem Node.isSteady_renderAll {registry : Registry σ} (h : registry.IsPure) (nodes : List Node) (ctx : Context) :
    (renderAll registry ctx nodes).IsSteady := by
  have hcalls : ∀ ctx, ∀ c ∈ allCalls nodes, (registry.evaluator ctx c).IsSteady := by
    intro ctx c _
    exact Operand.isSteady_evaluate (o := .call c) (fun c _ d hd => h c.name d hd) ctx
  have hnodes : Render.steadyRelation.Holds (renderAllBy registry.evaluator ctx nodes)
      (renderAllBy registry.evaluator ctx nodes) := related_renderAllBy _ hcalls ctx
  rw [renderAllBy_evaluate] at hnodes
  exact hnodes

namespace Engine

/-- The engines with the built-in functions alone and a clock that stands still, whatever they have been asked. -/
inductive IsBuiltIn (style : FunctionStyle) (now : Date) : Engine σ → Prop
  | made (cache : CacheSettings) : IsBuiltIn style now (create ⟨cache, ⟨true, style⟩⟩ (fun _ => now) .empty)
  | asked {e : Engine σ} {request : Request σ} (host : σ) : request.functionsAfter e.registry = e.registry →
      IsBuiltIn style now e → IsBuiltIn style now (e.handle request host).engine

variable {style : FunctionStyle} {now : Date} {e f : Engine σ}

theorem IsBuiltIn.registry_eq (h : e.IsBuiltIn style now) :
    e.registry = Registry.install .empty (Builtin.definitions style fun _ => now) := by
  induction h with
  | made cache => simp only [create, EngineConfig.install, if_true]
  | asked host hfunctions _ ih => rw [registry_handle, hfunctions, ih]

theorem IsBuiltIn.faithful (h : e.IsBuiltIn style now) : e.Faithful := by
  induction h with
  | made cache =>
    intro s tree hmem
    cases hmem
  | asked host _ _ ih => exact ih.handle _ host

theorem IsBuiltIn.isPure (h : e.IsBuiltIn style now) : e.registry.IsPure := by
  intro name d hd
  rw [h.registry_eq] at hd
  exact Builtin.isPure_definitions style now d (Builtin.mem_definitions_of_get? hd)

theorem IsBuiltIn.reports (h : e.IsBuiltIn style now) : e.registry.Reports := by
  intro name d hd
  rw [h.registry_eq] at hd
  exact Builtin.reports_definitions style _ d (Builtin.mem_definitions_of_get? hd)

/-- Two such engines render alike, and they have a text exactly if the context can be read. -/
theorem IsBuiltIn.render_agrees (he : e.IsBuiltIn style now) (hf : f.IsBuiltIn style now) (source : Text)
    (context : Data) (host host' : σ) :
    (e.render source context host).answer = (f.render source context host').answer ∧
      (Succeeds (e.render source context host).answer ↔ context.Readable) := by
  have hcontext := succeeds_create_iff context
  rw [Engine.render_eq he.faithful, Engine.render_eq hf.faithful, hf.registry_eq, ← he.registry_eq]
  cases hctx : Context.create context with
  | error fault =>
    rw [hctx] at hcontext
    simp only [plainRender, hctx]
    have hunreadable : ¬ context.Readable := fun h => not_succeeds_error fault (hcontext.2 h)
    exact ⟨trivial, iff_of_false (not_succeeds_error fault) hunreadable⟩
  | ok ctx =>
    rw [hctx] at hcontext
    have hreadable : context.Readable := hcontext.1 (succeeds_ok ctx)
    simp only [plainRender, hctx, Template.render]
    obtain ⟨answer, events, hrun⟩ := Node.isSteady_renderAll he.isPure (Template.ofSource source) ctx
    have hanswers := Node.answers_renderAll he.reports (Template.ofSource source) ctx host
    constructor
    · rw [hrun, hrun]
    · exact iff_of_true hanswers hreadable

end Engine

/-! ## The two forms of an answer -/

namespace Command

theorem isExact_textList (texts : List Text) : Json.IsExact (textList texts) := by
  refine .ofList ?_
  intro v hv
  obtain ⟨t, -, rfl⟩ := List.mem_map.1 hv
  exact .text t

/-- An answer in JSON is one line, and it is read back. -/
theorem read?_jsonLines (mode : CommandMode) {found : Mapping Value} (hfound : ∀ e ∈ found, Json.IsExact e.2)
    (hkeys : Mapping.Ordered (("mode", .text mode.word) :: found)) :
    ∃ line, jsonLines mode found = [line] ∧
      Json.read? line = some (.mapping (("mode", .text mode.word) :: found)) := by
  refine ⟨_, rfl, Json.read?_write (.mapping hkeys ?_) _⟩
  rw [List.forall_mem_cons]
  exact ⟨.text _, hfound⟩

/-- What the lines of a result show is what a field of an answer in JSON holds. -/
inductive Shows : CommandMode → Mapping Value → CommandResult → Prop
  | render {fields : Mapping Value} {text : Text} : Mapping.get? fields "rendered" = some (.text text) →
      Shows .render fields ⟨0, [text], []⟩
  | names {fields : Mapping Value} {names : List Text} : Mapping.get? fields "variables" = some (textList names) →
      Shows .names fields ⟨0, names, []⟩
  | valid {fields : Mapping Value} : Mapping.get? fields "valid" = some (.bool true) →
      Mapping.get? fields "diagnostics" = some (textList []) →
      Shows .validate fields ⟨0, ["Template is valid."], []⟩
  | problems {fields : Mapping Value} {messages : List Text} : messages ≠ [] →
      Mapping.get? fields "valid" = some (.bool false) →
      Mapping.get? fields "diagnostics" = some (textList messages) →
      Shows .validate fields ⟨2, [], messages.map fun message => Text.concat ["  - ", message]⟩

/-- A result in JSON beside one in lines: it is one line that is read as an object, and the two show the same. -/
structure Agree (mode : CommandMode) (json plain : CommandResult) (fields : Mapping Value) : Prop where
  line : ∃ line, json = ⟨plain.exitCode, [line], []⟩ ∧ Json.read? line = some (.mapping fields)
  shows : Shows mode fields plain
  exitCode : plain.exitCode = 2 ↔ mode = .validate ∧ Mapping.get? fields "diagnostics" ≠ some (textList [])

theorem agree_validation (messages : List Text) :
    ∃ fields, Agree .validate (validationResult true messages) (validationResult false messages) fields := by
  let found : Mapping Value := [("valid", .bool messages.isEmpty), ("diagnostics", textList messages)]
  have hfound : ∀ e ∈ found, Json.IsExact e.2 := by
    simp only [found, List.forall_mem_cons]
    exact ⟨.bool _, isExact_textList messages, List.forall_mem_nil _⟩
  have hkeys : List.Pairwise Mapping.Precedes ["mode", "valid", "diagnostics"] := by decide
  obtain ⟨line, hline, hread⟩ := read?_jsonLines .validate hfound hkeys
  refine ⟨_, ⟨line, ?_, hread⟩, ?_, ?_⟩
  · rw [← hline]
    cases messages with
    | nil => rfl
    | cons message rest => rfl
  · cases messages with
    | nil => exact .valid rfl rfl
    | cons message rest => exact .problems (List.cons_ne_nil _ _) rfl rfl
  · have hfield : Mapping.get? (("mode", .text CommandMode.validate.word) :: found) "diagnostics" =
        some (textList messages) := rfl
    rw [hfield]
    cases messages with
    | nil => simp [validationResult, CommandResult.success]
    | cons message rest => simp [validationResult, CommandResult.problemCode, textList]

theorem agree_names (names : List Text) :
    ∃ fields, Agree .names (.success (jsonLines .names [("variables", textList names)])) (.success names) fields := by
  have hfound : ∀ e ∈ [(("variables" : Text), textList names)], Json.IsExact e.2 :=
    List.forall_mem_singleton.2 (isExact_textList names)
  have hkeys : List.Pairwise Mapping.Precedes ["mode", "variables"] := by decide
  obtain ⟨line, hline, hread⟩ := read?_jsonLines .names hfound hkeys
  rw [hline]
  exact ⟨_, ⟨line, rfl, hread⟩, .names rfl, by simp [CommandResult.success]⟩

theorem agree_render (text : Text) (messages : List Text) :
    ∃ fields, Agree .render
      (.success (jsonLines .render [("rendered", .text text), ("diagnostics", textList messages)]))
      (.success [text]) fields := by
  have hfound : ∀ e ∈ [(("rendered" : Text), Value.text text), ("diagnostics", textList messages)],
      Json.IsExact e.2 := by
    simp only [List.forall_mem_cons]
    exact ⟨.text text, isExact_textList messages, List.forall_mem_nil _⟩
  have hkeys : List.Pairwise Mapping.Precedes ["mode", "rendered", "diagnostics"] := by decide
  obtain ⟨line, hline, hread⟩ := read?_jsonLines .render hfound hkeys
  rw [hline]
  exact ⟨_, ⟨line, rfl, hread⟩, .render rfl, by simp [CommandResult.success]⟩

variable {style : FunctionStyle} {now : Date} {e f : Engine σ}

/-- The results of a command in JSON and in lines. -/
theorem agree_run (he : e.IsBuiltIn style now) (hf : f.IsBuiltIn style now) (c : Command) (host host' : σ)
    {json plain : CommandResult} (hjson : ({ c with json := true }.run e host).answer = .ok json)
    (hplain : ({ c with json := false }.run f host').answer = .ok plain) :
    ∃ fields, Agree c.mode json plain fields := by
  cases hmode : c.mode with
  | validate =>
    simp only [run, hmode] at hjson hplain
    obtain rfl := Except.ok.inj hjson
    obtain rfl := Except.ok.inj hplain
    exact agree_validation _
  | names =>
    simp only [run, hmode, Engine.names, Engine.template_lookup he.faithful] at hjson
    simp only [run, hmode, Engine.names, Engine.template_lookup hf.faithful] at hplain
    obtain rfl := Except.ok.inj hjson
    obtain rfl := Except.ok.inj hplain
    exact agree_names _
  | render =>
    have hsame := (he.render_agrees hf c.template c.context host host').1
    simp only [run, hmode] at hjson hplain
    rw [hsame] at hjson
    cases hanswer : (f.render c.template c.context host').answer with
    | error fault =>
      rw [hanswer] at hjson
      cases hjson
    | ok text =>
      rw [hanswer] at hjson hplain
      obtain rfl := Except.ok.inj hjson
      obtain rfl := Except.ok.inj hplain
      exact agree_render text _

/-- A command answers, in either form, unless it is to render in a context that cannot be read. -/
theorem succeeds_run_iff (he : e.IsBuiltIn style now) (c : Command) (host : σ) :
    Succeeds (c.run e host).answer ↔ c.mode ≠ .render ∨ c.context.Readable := by
  cases hmode : c.mode with
  | validate =>
    simp only [run, hmode]
    exact iff_of_true (succeeds_ok _) (.inl (by decide))
  | names =>
    simp only [run, hmode]
    exact iff_of_true (succeeds_ok _) (.inl (by decide))
  | render =>
    have hreadable := (he.render_agrees he c.template c.context host host).2
    simp only [run, hmode, ne_eq, not_true_eq_false, false_or, ← hreadable]
    cases (e.render c.template c.context host).answer with
    | error fault => exact iff_of_false (not_succeeds_error fault) (not_succeeds_error fault)
    | ok text => exact iff_of_true (succeeds_ok _) (succeeds_ok text)

/-- Where a command has no answer, the fault is the same. -/
theorem fault_run (he : e.IsBuiltIn style now) (hf : f.IsBuiltIn style now) (c : Command) (host host' : σ)
    (fault : Fault) : ({ c with json := true }.run e host).answer = .error fault ↔
      ({ c with json := false }.run f host').answer = .error fault := by
  cases c.mode with
  | validate => simp only [run, reduceCtorEq]
  | names => simp only [run, reduceCtorEq]
  | render =>
    have hsame := (he.render_agrees hf c.template c.context host host').1
    simp only [run, hsame]
    cases (f.render c.template c.context host').answer with
    | error fault' => exact Iff.rfl
    | ok text => simp only [Except.map, reduceCtorEq]

/-- On engines with the built-in functions and a clock that stands still, a command answers in JSON and in lines alike.
There are answers unless it is to render in a context that cannot be read; then both runs end in the same fault. The
answer in JSON is one line, read back as an object with what the lines show, and both end with the same exit code,
which is 2 exactly if the structure of the template is asked for and something is wrong with it. -/
theorem outputs_agree_iff (he : e.IsBuiltIn style now) (hf : f.IsBuiltIn style now) (c : Command) (host host' : σ) :
    let json := ({ c with json := true }.run e host).answer
    let plain := ({ c with json := false }.run f host').answer
    (Succeeds json ↔ c.mode ≠ .render ∨ c.context.Readable) ∧
    (Succeeds plain ↔ c.mode ≠ .render ∨ c.context.Readable) ∧
    (∀ fault, json = .error fault ↔ plain = .error fault) ∧
    ∀ j p, json = .ok j → plain = .ok p → ∃ fields, Agree c.mode j p fields := by
  refine ⟨succeeds_run_iff he _ host, succeeds_run_iff hf _ host', fault_run he hf c host host', ?_⟩
  intro j p hjson hplain
  exact agree_run he hf c host host' hjson hplain

/-- A render with an unpaired surrogate, a control and a quote in the template. -/
theorem outputs_agree_iff_surrogate :
    let e : Engine Unit := Engine.create .standard (fun _ => none) .empty
    let c : Command := ⟨.render, [0xD83D, 0x08, CodeUnit.quote], .ofValue (.mapping []), false⟩
    e.IsBuiltIn EngineConfig.standard.functions.style none ∧ ∃ j p fields,
      ({ c with json := true }.run e ()).answer = .ok j ∧ (c.run e ()).answer = .ok p ∧ Agree .render j p fields := by
  intro e c
  have he : e.IsBuiltIn EngineConfig.standard.functions.style none := .made EngineConfig.standard.cache
  have hreadable : c.context.Readable := by
    refine ⟨by simp [c], ?_⟩
    intro key _ inner _ id _ entries hmap
    simp [c] at hmap
  obtain ⟨hjson, hplain, -, hagree⟩ := outputs_agree_iff he he c () ()
  obtain ⟨j, hj⟩ := hjson.2 (.inr hreadable)
  obtain ⟨p, hp⟩ := hplain.2 (.inr hreadable)
  obtain ⟨fields, hfields⟩ := hagree j p hj hp
  exact ⟨he, j, p, fields, hj, hp, hfields⟩

/-- With a map in the context that has a list of one symbol as a key, a command that renders has no answer. -/
theorem some_commands_do_not_answer :
    ¬ Succeeds (Command.run ⟨.render, "a", .symbolKeyed, true⟩
      (Engine.create .standard (fun _ => none) .empty) ()).answer := by
  decide +kernel

end Command

end BraceTemplate
