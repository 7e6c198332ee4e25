import BraceTemplate.Proofs.Conversion
import BraceTemplate.Proofs.Evaluators
import BraceTemplate.Proofs.Requests

/-!
# When a render ends in a fault

A render always ends, and answers with a text except in two cases: the caller's data cannot be read, or a function
throws something that has no text. To say so of a run, the functions are made to keep the outcomes of their calls
beside the state of the host; this changes nothing else.

* `Render.Records` — a computation compared with the one that keeps outcomes;
* `render_answers_iff` — when a render answers.
-/

namespace BraceTemplate

variable {σ : Type}

/-- Whether the outcome of a call can be reported: only of what is thrown and is no error is a text needed. -/
def Outcome.HasText : Outcome → Prop
  | .threw data => Succeeds data.plainText
  | _ => True

instance : DecidablePred Outcome.HasText
  | .returned _ => inferInstanceAs (Decidable True)
  | .failed _ => inferInstanceAs (Decidable True)
  | .threw data => inferInstanceAs (Decidable (Succeeds data.plainText))

/-! ## Keeping the outcomes -/

/-- The function, with its outcomes kept beside the state of the host. -/
def Callback.recording (c : Callback σ) : Callback (σ × List Outcome) where
  arity := c.arity
  run := fun heap args host =>
    let ended := c.run heap args host.1
    (ended.1, ended.2, host.2 ++ [ended.1])

/-- The definition, with its outcomes kept. -/
def Definition.recording (d : Definition σ) : Definition (σ × List Outcome) :=
  ⟨d.name, d.callback.recording, d.minArguments, d.acceptsAbsent⟩

/-- The functions, with their outcomes kept. -/
def Registry.recording (r : Registry σ) : Registry (σ × List Outcome) :=
  ⟨r.definitions.map Definition.recording⟩

/-- The engine, with the outcomes of its functions kept. -/
def Engine.recording (e : Engine σ) : Engine (σ × List Outcome) :=
  ⟨e.config, e.registry.recording, e.cache, e.parses⟩

theorem Registry.get?_recording (r : Registry σ) (name : Text) :
    r.recording.get? name = (r.get? name).map Definition.recording :=
  List.find?_map ..

namespace Render

variable {α β : Type}

/-- A computation records another: it does the same, adds the outcomes of the calls, and answers exactly if all of
these can be reported. -/
def Records (recorded : Render (σ × List Outcome) α) (m : Render σ α) : Prop :=
  ∀ host outcomes, ∃ added,
    recorded (host, outcomes) = ⟨(m host).answer, ((m host).host, outcomes ++ added), (m host).events⟩ ∧
      (Succeeds (m host).answer ↔ ∀ o ∈ added, o.HasText)

theorem Records.pure (a : α) : Records (σ := σ) (Pure.pure a) (Pure.pure a) := by
  intro host outcomes
  refine ⟨[], ?_, ?_⟩
  · rw [List.append_nil]
    rfl
  · exact iff_of_true (succeeds_ok a) (by simp)

theorem Records.bind {recorded : Render (σ × List Outcome) α} {m : Render σ α}
    {next' : α → Render (σ × List Outcome) β} {next : α → Render σ β} (hm : Records recorded m)
    (hnext : ∀ a, Records (next' a) (next a)) : Records (recorded >>= next') (m >>= next) := by
  intro host outcomes
  obtain ⟨added, hrun, hanswer⟩ := hm host outcomes
  have hsame : (recorded (host, outcomes)).answer = (m host).answer := by rw [hrun]
  cases hfirst : (m host).answer with
  | error fault =>
    -- the outcome that stopped the first computation stops the whole
    rw [hfirst] at hsame hanswer
    refine ⟨added, ?_, ?_⟩
    · rw [bind_of_error hsame, bind_of_error hfirst, hrun]
    · rw [bind_of_error hfirst]
      exact (iff_of_false (not_succeeds_error fault) (not_succeeds_error fault)).trans hanswer
  | ok a =>
    rw [hfirst] at hsame hanswer
    have hreported : ∀ o ∈ added, o.HasText := hanswer.1 (succeeds_ok a)
    obtain ⟨more, hrun', hanswer'⟩ := hnext a (m host).host (outcomes ++ added)
    refine ⟨added ++ more, ?_, ?_⟩
    · rw [bind_of_ok hsame, bind_of_ok hfirst, hrun]
      simp only [hrun', List.append_assoc]
    · rw [bind_of_ok hfirst, List.forall_mem_append]
      exact hanswer'.trans ⟨fun hmore => ⟨hreported, hmore⟩, fun hall => hall.2⟩

/-- Recording as a relation: what a renderer does between two calls records itself. -/
def recordsRelation : Relation (σ × List Outcome) σ where
  Holds := Records
  pure := Records.pure
  bind := Records.bind

end Render

/-! ## Calls -/

namespace Outcome

/-- What a call that ended so gives: a value, or none if it failed, or the fault of a report that has no text. -/
def answer : Outcome → Except Fault (Option Value)
  | returned data => match data.toValue with
    | .ok v => .ok (some v)
    | .error _ => .ok none
  | failed _ => .ok none
  | threw data => do
    let _ ← data.plainText
    return none

/-- What there is to say about a call that failed. -/
def complaint? : Outcome → Option Text
  | returned data => match data.toValue with
    | .ok _ => none
    | .error fault => some fault.message
  | failed fault => some fault.message
  | threw data => data.plainText.toOption

/-- A call gets through exactly if its outcome can be reported. -/
theorem succeeds_answer_iff (o : Outcome) : Succeeds o.answer ↔ o.HasText := by
  cases o with
  | returned data =>
    refine iff_of_true ?_ trivial
    simp only [answer]
    cases data.toValue with
    | ok v => exact succeeds_ok (some v)
    | error fault => exact succeeds_ok none
  | failed fault => exact iff_of_true (succeeds_ok none) trivial
  | threw data => exact succeeds_bind_pure_iff

end Outcome

namespace Definition

/-- An invocation calls the function once; its outcome decides over the answer and over what is left behind. -/
theorem invoke_eq (d : Definition σ) (args : List Value) (host : σ) : d.invoke args host =
    let ended := d.callback.run #[] (args.map .value) host
    ⟨ended.1.answer, ended.2, .invoked d.name args :: (ended.1.complaint?.map (.failed d.name)).toList⟩ := by
  rcases hrun : d.callback.run #[] (args.map .value) host with ⟨outcome, after⟩
  simp only [invoke, hrun]
  cases outcome with
  | returned data =>
    simp only [Outcome.answer, Outcome.complaint?]
    cases data.toValue with
    | ok v => rfl
    | error fault => rfl
  | failed fault => rfl
  | threw data =>
    simp only [Outcome.answer, Outcome.complaint?]
    cases data.plainText with
    | ok message => rfl
    | error fault => rfl

/-- A call keeps its one outcome. -/
theorem records_invoke (d : Definition σ) (args : List Value) :
    Render.Records (d.recording.invoke args) (d.invoke args) := by
  intro host outcomes
  refine ⟨[(d.callback.run #[] (args.map .value) host).1], ?_, ?_⟩
  · rw [invoke_eq, invoke_eq]
    rfl
  · rw [List.forall_mem_singleton, invoke_eq]
    exact Outcome.succeeds_answer_iff _

end Definition

variable (registry : Registry σ)

theorem Call.records_evaluate (ctx : Context) (c : Call) :
    Render.Records (c.evaluate registry.recording ctx) (c.evaluate registry ctx) := by
  unfold evaluate
  rw [Registry.get?_recording]
  cases registry.get? c.name with
  | none => exact .pure none
  | some d =>
    have haccept : d.recording.accept? = d.accept? := rfl
    have hbound : d.recording.minArguments = d.minArguments := rfl
    simp only [Option.map_some, haccept, hbound]
    split
    · exact .pure none
    · cases d.accept? (c.arguments.map (Argument.resolve? ctx)) with
      | none => exact .pure none
      | some values => exact (d.records_invoke values).bind fun result => .pure _

/-! ## Templates -/

/-- The nodes of a template call the functions in the same order. -/
theorem Node.records_renderAll (nodes : List Node) (ctx : Context) :
    Render.Records (renderAll registry.recording ctx nodes) (renderAll registry ctx nodes) := by
  have hcalls : ∀ ctx, ∀ c ∈ allCalls nodes,
      Render.Records (registry.recording.evaluator ctx c) (registry.evaluator ctx c) := by
    intro ctx c _
    exact c.records_evaluate registry ctx
  have hnodes := related_renderAllBy Render.recordsRelation hcalls ctx
  rw [renderAllBy_evaluate, renderAllBy_evaluate] at hnodes
  exact hnodes

/-! ## Engines -/

/-- The tree of a lookup does not depend on the functions. -/
theorem Engine.tree_lookup_recording (e : Engine σ) (source : Text) :
    (e.recording.lookup source).1 = (e.lookup source).1 := by
  rw [tree_lookup, tree_lookup]
  rfl

/-- A render answers with a text exactly if the caller's data can be read and everything that its functions throw
can be reported. -/
theorem render_answers_iff (e : Engine σ) (source : Text) (context : Data) (host : σ) :
    let run := e.render source context host
    let recorded := e.recording.render source context (host, [])
    recorded.answer = run.answer ∧ recorded.host.1 = run.host ∧
      (Succeeds run.answer ↔ context.Readable ∧ ∀ o ∈ recorded.host.2, o.HasText) := by
  intro run recorded
  have hcontext := succeeds_create_iff context
  cases hctx : Context.create context with
  | error fault =>
    have hrun : run = _ := Engine.render_of_error hctx source host
    have hrecorded : recorded = _ := Engine.render_of_error hctx source (host, [])
    rw [hctx] at hcontext
    have hunreadable : ¬ context.Readable := fun h => not_succeeds_error fault (hcontext.2 h)
    rw [hrun, hrecorded]
    exact ⟨rfl, rfl, iff_of_false (not_succeeds_error fault) fun h => hunreadable h.1⟩
  | ok ctx =>
    have hrun : run = _ := Engine.render_of_ok hctx source host
    have hrecorded : recorded = _ := Engine.render_of_ok hctx source (host, [])
    have hreadable : context.Readable := hcontext.1 ⟨ctx, hctx⟩
    obtain ⟨added, hnodes, hanswer⟩ :=
      Node.records_renderAll e.registry (e.lookup source).1.template ctx host []
    have hregistry : e.recording.registry = e.registry.recording := rfl
    simp only [Engine.tree_lookup_recording, hregistry, Template.render, hnodes, List.nil_append] at hrecorded
    rw [hrun, hrecorded]
    exact ⟨rfl, rfl, hanswer.trans ⟨fun h => ⟨hreadable, h⟩, fun h => h.2⟩⟩

/-- A context whose one variable is a map, with a list of one symbol as a key. -/
def Data.symbolKeyed : Data where
  heap := #[.array [some .symbol], .map [(.node 0, .value (.bool true))], .record [("m", .node 1)],
    .record [("variables", .node 2)]]
  root := .node 3

/-- A function that throws a list of one symbol. -/
def Callback.throwing : Callback Unit where
  arity := 0
  run := fun _ _ host => (.threw ⟨#[.array [some .symbol]], .node 0⟩, host)

/-- Neither of the two conditions always holds: a list that holds a symbol has no text, be it a key or thrown. -/
theorem some_renders_do_not_answer :
    ¬ Succeeds ((Engine.create .standard (fun _ => none) .empty).render "a" .symbolKeyed ()).answer ∧
    ¬ Succeeds (Engine.render ⟨.standard, ⟨[⟨"f", .throwing, .ofNat 0, false⟩]⟩, .empty, 0⟩ "{f()}"
      (.ofValue (.mapping [])) ()).answer := by
  decide +kernel

end BraceTemplate
