import BraceTemplate.Proofs.Escapes
import BraceTemplate.Proofs.Transparency

/-!
# What a render calls and what it logs

A render calls functions only where it evaluates a call of the template, and one evaluation either refuses the call
or invokes the function once. The evaluations of a render are kept beside the state of the host, as by an evaluator
that writes down what it is asked; everything a render does to the host and to the log is theirs.

* `Evaluation.run_of_refused`, `Evaluation.run_of_invoked` — what one evaluation does;
* `Template.trace_evaluations` — a render is made up of its evaluations;
* `calls_are_guarded` — which calls reach a function and with what, and what is logged.
-/

namespace BraceTemplate

variable {σ : Type}

/-! ## Invocations -/

namespace Outcome

/-- Whether a call failed: something was thrown, or the result is no value. -/
def fails : Outcome → Bool
  | returned data => match data.toValue with
    | .ok _ => false
    | .error _ => true
  | failed _ => true
  | threw _ => true

end Outcome

/-- One invocation of a function. -/
structure Invocation (σ : Type) where
  definition : Definition σ
  arguments : List Value
  /-- The state of the host before it. -/
  host : σ

namespace Invocation

/-- How the invocation ended. -/
def outcome (i : Invocation σ) : Outcome :=
  (i.definition.callback.run #[] (i.arguments.map .value) i.host).1

/-- The state of the host after the function was called once. -/
def after (i : Invocation σ) : σ :=
  (i.definition.callback.run #[] (i.arguments.map .value) i.host).2

/-- What the invocation leaves behind. -/
def events (i : Invocation σ) : List Event :=
  .invoked i.definition.name i.arguments ::
    (i.outcome.complaint?.map (Event.failed i.definition.name)).toList

/-- The warning about the invocation, which names the function. -/
def report (i : Invocation σ) : LogEntry :=
  .ofValue .warn (Text.concat ["Template function ", i.definition.name, "() failed"])
    (.mapping [("error", .text (i.outcome.complaint?.getD []))])

/-- An invocation is logged if it fails, and then once. -/
theorem logged_events {i : Invocation σ} (h : i.outcome.HasText) :
    i.events.filterMap LogEntry.ofEvent? = if i.outcome.fails then [i.report] else [] := by
  simp only [events, report, List.filterMap_cons, LogEntry.ofEvent?]
  rcases hout : i.outcome with data | fault | data
  · cases hvalue : data.toValue <;> simp only [hvalue, Outcome.complaint?, Outcome.fails] <;> rfl
  · rfl
  · rw [hout] at h
    rcases h with ⟨message, htext⟩
    simp only [htext, Outcome.complaint?, Outcome.fails]
    rfl

end Invocation

/-! ## Evaluations -/

/-- One evaluation of a call. -/
structure Evaluation (σ : Type) where
  call : Call
  context : Context
  /-- The state of the host before it. -/
  host : σ

namespace Evaluation

variable (registry : Registry σ)

/-- What the evaluation does. -/
def run (e : Evaluation σ) : Ran σ (Option Value) :=
  e.call.evaluate registry e.context e.host

/-- The invocation that the evaluation comes to, if the call is not refused. -/
def invocation? (e : Evaluation σ) : Option (Invocation σ) :=
  (registry.get? e.call.name).bind fun d =>
    if d.minArguments.gtNat e.call.arguments.length then none
    else (d.accept? (e.call.arguments.map (Argument.resolve? e.context))).map fun values => ⟨d, values, e.host⟩

/-- What makes a call one that may reach a function. -/
structure Reaches (e : Evaluation σ) (i : Invocation σ) : Prop where
  registered : registry.get? e.call.name = some i.definition
  named : i.definition.name = e.call.name
  /-- At least as many arguments are written as the function asks for. -/
  enough : i.definition.minArguments.gtNat e.call.arguments.length = false
  /-- The arguments are handed over in their places, and a path that is absent only where this is accepted. -/
  present : List.Forall₂ (fun a v => ∀ p, a = .path p → i.definition.acceptsAbsent = false →
    (Datum.value v).isPresent) e.call.arguments i.arguments

end Evaluation

/-- What is done with an answer does not touch the host. -/
theorem Render.bind_pure_run {α β : Type} (m : Render σ α) (f : α → β) (host : σ) :
    ((m >>= fun a => pure (f a)) host).host = (m host).host ∧
      ((m >>= fun a => pure (f a)) host).events = (m host).events := by
  cases hanswer : (m host).answer with
  | error fault =>
    rw [bind_of_error hanswer]
    exact ⟨rfl, rfl⟩
  | ok a =>
    rw [bind_of_ok hanswer]
    exact ⟨rfl, List.append_nil _⟩

/-- What a path reads is present. -/
theorem Context.isPresent_of_present? {ctx : Context} {p : Path} {v : Value} (h : ctx.present? p = some v) :
    (Datum.value v).isPresent :=
  (Option.filter_eq_some_iff.1 h).2

/-- A function that does not accept what is absent is handed a value that is present for every path. -/
theorem Definition.forall₂_of_accept? {d : Definition σ} {ctx : Context} {args : List Argument} {values : List Value}
    (h : d.accept? (args.map (Argument.resolve? ctx)) = some values) :
    List.Forall₂ (fun a v => ∀ p, a = .path p → d.acceptsAbsent = false → (Datum.value v).isPresent) args values := by
  induction args generalizing values with
  | nil =>
    rw [← Option.some.inj h]
    exact .nil
  | cons a args ih =>
    simp only [accept?, List.map_cons, List.mapM_cons, Option.bind_eq_bind, Option.pure_def,
      Option.bind_eq_some_iff, Option.some.injEq] at h
    rcases h with ⟨v, hfirst, rest, hrest, rfl⟩
    refine .cons ?_ (ih hrest)
    rintro p rfl hrefuses
    rcases hvalue : ctx.present? p with _ | w
    · simp [Argument.resolve?, hvalue, hrefuses] at hfirst
    · simp only [Argument.resolve?, hvalue, Option.some.injEq] at hfirst
      rw [← hfirst]
      exact Context.isPresent_of_present? hvalue

namespace Evaluation

variable {registry : Registry σ} {e : Evaluation σ}

/-- A call that is refused does nothing and has no value. -/
theorem run_of_refused (h : e.invocation? registry = none) : e.run registry = ⟨.ok none, e.host, []⟩ := by
  simp only [invocation?, Option.bind_eq_none_iff] at h
  unfold run Call.evaluate
  cases hfunction : registry.get? e.call.name with
  | none => rfl
  | some d =>
    have hrefused := h d hfunction
    simp only
    split_ifs at hrefused ⊢ with hfew
    · rfl
    · rw [Option.map_eq_none_iff.1 hrefused]
      rfl

/-- A call that is not refused invokes the function, once; only a null in its answer may become nothing. -/
theorem run_of_invoked {i : Invocation σ} (h : e.invocation? registry = some i) :
    e.Reaches registry i ∧ (e.run registry).host = i.after ∧ (e.run registry).events = i.events := by
  simp only [invocation?, Option.bind_eq_some_iff] at h
  rcases h with ⟨d, hfunction, h⟩
  split_ifs at h with hfew
  rcases Option.map_eq_some_iff.1 h with ⟨values, haccept, rfl⟩
  constructor
  · exact ⟨hfunction, Registry.name_of_get? hfunction, Bool.eq_false_iff.2 hfew,
      Definition.forall₂_of_accept? haccept⟩
  · have hinvoke := d.invoke_eq values e.host
    have hrun : e.call.evaluate registry e.context = (do
        let result ← d.invoke values
        return result.filter fun v =>
          !(v.isNull && (e.call.arguments.map (Argument.resolve? e.context)).any Option.isNone)) := by
      simp only [Call.evaluate, hfunction, if_neg hfew, haccept]
    have hsame := Render.bind_pure_run (d.invoke values) (fun result => result.filter fun v =>
      !(v.isNull && (e.call.arguments.map (Argument.resolve? e.context)).any Option.isNone)) e.host
    rw [run, hrun, hsame.1, hsame.2, hinvoke]
    exact ⟨rfl, rfl⟩

/-- Evaluations that lead from one state of the host to another, each from where the one before it ended. -/
inductive Lead (registry : Registry σ) : σ → List (Evaluation σ) → σ → Prop
  | nil (host : σ) : Lead registry host [] host
  | cons (e : Evaluation σ) {es : List (Evaluation σ)} {last : σ} :
      Lead registry (e.run registry).host es last → Lead registry e.host (e :: es) last

theorem Lead.append {first middle last : σ} {es es' : List (Evaluation σ)} (h : Lead registry first es middle)
    (h' : Lead registry middle es' last) : Lead registry first (es ++ es') last := by
  induction h with
  | nil => exact h'
  | cons e _ ih => exact .cons e (ih h')

/-- A run that is made up of evaluations of some calls: they lead to the host that it leaves, and what it leaves
behind is what they leave behind, in order. -/
structure Trace {α : Type} (registry : Registry σ) (calls : List Call) (host : σ) (es : List (Evaluation σ))
    (ran : Ran σ α) : Prop where
  written : ∀ e ∈ es, e.call ∈ calls
  lead : Lead registry host es ran.host
  events : ran.events = es.flatMap fun e => (e.run registry).events

end Evaluation

/-! ## The evaluations of a render -/

/-- Evaluates calls, and writes down each evaluation. -/
def Evaluator.recording (registry : Registry σ) : Evaluator (σ × List (Evaluation σ)) := fun ctx c host =>
  let e : Evaluation σ := ⟨c, ctx, host.1⟩
  let ran := e.run registry
  ⟨ran.answer, (ran.host, host.2 ++ [e]), ran.events⟩

/-- The evaluations of a render, in order. -/
def Template.evaluations (registry : Registry σ) (ctx : Context) (t : Template) (host : σ) : List (Evaluation σ) :=
  (Node.renderAllBy (Evaluator.recording registry) ctx t (host, [])).host.2

/-- A computation that keeps its evaluations, compared with the one that does not. -/
def Evaluation.relation (registry : Registry σ) (calls : List Call) :
    Render.Relation (σ × List (Evaluation σ)) σ where
  Holds recorded m := ∀ host earlier, ∃ es,
    recorded (host, earlier) = ⟨(m host).answer, ((m host).host, earlier ++ es), (m host).events⟩ ∧
      Trace registry calls host es (m host)
  pure a := by
    intro host earlier
    refine ⟨[], ?_, ?_⟩
    · rw [List.append_nil]
      rfl
    · exact ⟨by simp, .nil host, rfl⟩
  bind := by
    intro α β recorded m next' next hm hnext host earlier
    rcases hm host earlier with ⟨es, hrun, htrace⟩
    have hsame : (recorded (host, earlier)).answer = (m host).answer := by rw [hrun]
    cases hfirst : (m host).answer with
    | error fault =>
      -- a fault ends the run, so nothing is evaluated after it
      rw [hfirst] at hsame
      refine ⟨es, ?_, ?_⟩
      · rw [Render.bind_of_error hsame, Render.bind_of_error hfirst, hrun]
      · rw [Render.bind_of_error hfirst]
        exact ⟨htrace.written, htrace.lead, htrace.events⟩
    | ok a =>
      rw [hfirst] at hsame
      rcases hnext a (m host).host (earlier ++ es) with ⟨more, hrun', htrace'⟩
      refine ⟨es ++ more, ?_, ?_⟩
      · rw [Render.bind_of_ok hsame, Render.bind_of_ok hfirst, hrun]
        simp only [hrun', List.append_assoc]
      · rw [Render.bind_of_ok hfirst]
        constructor
        · intro e he
          rcases List.mem_append.1 he with he | he
          · exact htrace.written e he
          · exact htrace'.written e he
        · exact htrace.lead.append htrace'.lead
        · simp only [htrace.events, htrace'.events, List.flatMap_append]

/-- A render is made up of its evaluations, which are all of calls that are written in the template. -/
theorem Template.trace_evaluations (registry : Registry σ) (ctx : Context) (t : Template) (host : σ) :
    Evaluation.Trace registry (Node.allCalls t) host (t.evaluations registry ctx host)
      (t.render registry ctx host) := by
  have hcalls : ∀ ctx, ∀ c ∈ Node.allCalls t,
      (Evaluation.relation registry (Node.allCalls t)).Holds (Evaluator.recording registry ctx c)
        (registry.evaluator ctx c) := by
    intro ctx c hc host earlier
    refine ⟨[⟨c, ctx, host⟩], rfl, ?_⟩
    constructor
    · intro e he
      rw [List.mem_singleton.1 he]
      exact hc
    · exact .cons ⟨c, ctx, host⟩ (.nil _)
    · exact (List.append_nil _).symm
  have hnodes := Node.related_renderAllBy _ hcalls ctx host []
  rw [Node.renderAllBy_evaluate] at hnodes
  rcases hnodes with ⟨es, hrun, htrace⟩
  have hevaluations : t.evaluations registry ctx host = es := by
    rw [evaluations, hrun]
    exact List.nil_append es
  rw [hevaluations]
  exact htrace

/-! ## The log of a render -/

namespace LogEntry

/-- Whether an entry is a warning. -/
def isWarning (e : LogEntry) : Bool :=
  e.level = .warn

/-- What a render reports is always a warning. -/
theorem filter_isWarning_events (events : List Event) :
    (events.filterMap ofEvent?).filter isWarning = events.filterMap ofEvent? := by
  rw [List.filter_eq_self]
  intro entry hentry
  rcases List.mem_filterMap.1 hentry with ⟨event, -, hevent⟩
  cases event with
  | invoked => cases hevent
  | failed name message =>
    rw [← Option.some.inj hevent]
    rfl

end LogEntry

/-- A lookup warns of nothing. -/
theorem Engine.filter_isWarning_lookup (engine : Engine σ) (source : Text) :
    (engine.lookup source).2.2.filter LogEntry.isWarning = [] := by
  rw [List.filter_eq_nil_iff]
  intro entry hentry
  have heviction := isEviction_of_mem_log_lookup hentry
  simp only [LogEntry.isEviction, Bool.and_eq_true, decide_eq_true_eq] at heviction
  simp [LogEntry.isWarning, heviction.1]

/-- Evaluations are logged as far as they come to invocations that fail. -/
theorem Evaluation.logged_events (registry : Registry σ) {es : List (Evaluation σ)}
    (h : ∀ i ∈ es.filterMap (Evaluation.invocation? registry), i.outcome.HasText) :
    (es.flatMap fun e => (e.run registry).events).filterMap LogEntry.ofEvent? =
      ((es.filterMap (Evaluation.invocation? registry)).filter fun i => i.outcome.fails).map Invocation.report := by
  induction es with
  | nil => rfl
  | cons e es ih =>
    rw [List.flatMap_cons, List.filterMap_append]
    -- a call that is refused adds nothing on either side
    cases hinvocation : e.invocation? registry with
    | none =>
      rw [List.filterMap_cons_none hinvocation] at h ⊢
      rw [run_of_refused hinvocation, ih h]
      rfl
    | some i =>
      rw [List.filterMap_cons_some hinvocation] at h ⊢
      rcases List.forall_mem_cons.1 h with ⟨hi, hrest⟩
      rw [(run_of_invoked hinvocation).2.2, Invocation.logged_events hi, ih hrest, List.filter_cons]
      split
      · rfl
      · rfl

/-- Every call of a function during a render is guarded.

A render is made up of evaluations of calls that are written in the template. An evaluation that comes to no
invocation leaves the host and the log alone. One that does come to an invocation calls the function of that name,
exactly once; then at least as many arguments are written as the function asks for, and if it does not accept what is
absent, no path is handed over as null or undefined. As long as everything that is thrown has a text, the warnings of
a render are one for each invocation that fails, in order, with the name of the function. -/
theorem calls_are_guarded (registry : Registry σ) (ctx : Context) (t : Template) (host : σ) :
    let evaluations := t.evaluations registry ctx host
    let invocations := evaluations.filterMap (Evaluation.invocation? registry)
    Evaluation.Trace registry (Node.allCalls t) host evaluations (t.render registry ctx host) ∧
    (∀ e ∈ evaluations, e.invocation? registry = none → (e.run registry).host = e.host ∧ (e.run registry).events = []) ∧
    (∀ e ∈ evaluations, ∀ i, e.invocation? registry = some i →
      e.Reaches registry i ∧ (e.run registry).host = i.after ∧ (e.run registry).events = i.events) ∧
    ((∀ i ∈ invocations, i.outcome.HasText) → ∀ (engine : Engine σ) (source : Text) (context : Data),
      engine.registry = registry → (engine.lookup source).1.template = t → Context.create context = .ok ctx →
      (engine.render source context host).log.filter LogEntry.isWarning =
        (invocations.filter fun i => i.outcome.fails).map Invocation.report) := by
  intro evaluations invocations
  have htrace := t.trace_evaluations registry ctx host
  refine ⟨htrace, ?_, ?_, ?_⟩
  · intro e _ hrefused
    rw [Evaluation.run_of_refused hrefused]
    exact ⟨rfl, rfl⟩
  · intro e _ i hinvoked
    exact Evaluation.run_of_invoked hinvoked
  · rintro htext engine source context rfl rfl hctx
    rw [Engine.render_of_ok hctx source host, List.filter_append, Engine.filter_isWarning_lookup, List.nil_append,
      LogEntry.filter_isWarning_events, htrace.events]
    exact Evaluation.logged_events _ htext

/-- A function that asks for one argument and throws: of a comparison of two calls and a call by itself, the first is
given a number, the second a variable that is not there, and the last nothing. -/
theorem calls_are_guarded_in_test :
    let throwing : Callback Nat := ⟨1, fun _ _ host => (.threw (.ofValue (.text "no")), host + 1)⟩
    let engine : Engine Nat := ⟨.standard, ⟨[⟨"f", throwing, .ofNat 1, false⟩]⟩, .empty, 0⟩
    let source := Text.ofString "{if f(1) == f(x)}{endif}{f()}"
    let run := engine.render source (.ofValue (.mapping [])) 0
    ((engine.lookup source).1.template.evaluations engine.registry .empty 0).map
      (fun e => (e.invocation? engine.registry).isSome) = [true, false, false] ∧
    run.host = 1 ∧
    (run.log.filter LogEntry.isWarning).map LogEntry.message = [Text.ofString "Template function f() failed"] := by
  intro throwing engine source run
  have htext : ∀ i ∈ ((engine.lookup source).1.template.evaluations engine.registry .empty 0).filterMap
      (Evaluation.invocation? engine.registry), i.outcome.HasText := by decide +kernel
  have hguarded := calls_are_guarded engine.registry .empty (engine.lookup source).1.template 0
  refine ⟨by decide +kernel, by decide +kernel, ?_⟩
  rw [hguarded.2.2.2 htext engine source (.ofValue (.mapping [])) rfl rfl rfl]
  decide +kernel

end BraceTemplate
