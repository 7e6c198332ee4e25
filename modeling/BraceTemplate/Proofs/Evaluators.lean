import BraceTemplate.Template.Rendering
import BraceTemplate.Proofs.ReadExpressions

/-!
# Rendering with another evaluator of calls

All that a render does beyond reading the context is to evaluate calls. With the evaluator of calls as a parameter,
two renders of a template can be compared by what their evaluators do, and a relation that holds for the calls that
are written in the template holds for the renders.

* `renderAllBy_evaluate` — with the evaluator of calls as it is, the renderer is the one that renders templates;
* `related_renderAllBy` — a relation of computations goes over from the evaluators to the renders.
-/

namespace BraceTemplate

/-! ## The renderer over an evaluator -/

/-- A way to evaluate calls. -/
abbrev Evaluator (σ : Type) := Context → Call → Render σ (Option Value)

/-- The evaluator of calls as it is. -/
abbrev Registry.evaluator {σ : Type} (registry : Registry σ) : Evaluator σ := fun ctx c => c.evaluate registry ctx

section Renderer

variable {σ : Type} (evaluator : Evaluator σ)

/-- The value of an operand. -/
def Operand.evaluateBy (ctx : Context) : Operand → Render σ (Option Value)
  | simple a => pure (a.resolve? ctx)
  | call c => evaluator ctx c

/-- The value of an expression. -/
def Expression.evaluateBy (ctx : Context) : Expression → Render σ (Option Value)
  | operand o => o.evaluateBy evaluator ctx
  | compare c left right => do
    let a ← left.evaluateBy evaluator ctx
    let b ← right.evaluateBy evaluator ctx
    return some (.bool (c.holds a b))

/-- Whether a test holds. -/
def Expression.testBy (ctx : Context) : Option Expression → Render σ Bool
  | none => pure false
  | some e => do
    let result ← e.evaluateBy evaluator ctx
    return (result.map Value.isTruthy).getD false

namespace Node

mutual

/-- The text of a node. -/
def renderBy (ctx : Context) : Node → Render σ Text
  | text value => pure value
  | reference p source => pure (((ctx.present? p).map Value.toText).getD source)
  | call c source => do
    let result ← evaluator ctx c
    return (result.map Value.toText).getD source
  | block (.cond test) body _ => do
    if ← Expression.testBy evaluator ctx test then renderAllBy ctx body else pure []
  | block (.loop _ none) _ _ => pure []
  | block (.loop binding (some iterable)) body _ => do
    match ← iterable.evaluateBy evaluator ctx with
    | some (.list items) =>
      Render.concat (fun item => renderAllBy (ctx.bind binding (item.getD .null)) body) items
    | _ => pure []

/-- The text of nodes, one after another. -/
def renderAllBy (ctx : Context) : List Node → Render σ Text
  | [] => pure []
  | n :: rest => do
    let first ← renderBy ctx n
    let others ← renderAllBy ctx rest
    return first ++ others

end

end Node

end Renderer

/-! ### The evaluator of calls as it is -/

section Evaluate

variable {σ : Type} (registry : Registry σ)

theorem Operand.evaluateBy_evaluate (ctx : Context) (o : Operand) :
    o.evaluateBy registry.evaluator ctx = o.evaluate registry ctx := by
  cases o with
  | simple a => rfl
  | call c => rfl

theorem Expression.evaluateBy_evaluate (ctx : Context) (e : Expression) :
    e.evaluateBy registry.evaluator ctx = e.evaluate registry ctx := by
  cases e with
  | operand o => exact o.evaluateBy_evaluate registry ctx
  | compare c left right => simp only [evaluateBy, evaluate, Operand.evaluateBy_evaluate]

theorem Expression.testBy_evaluate (ctx : Context) (test : Option Expression) :
    Expression.testBy registry.evaluator ctx test = Expression.test registry ctx test := by
  cases test with
  | none => rfl
  | some e => simp only [testBy, Expression.test, Expression.evaluateBy_evaluate]

/-- With the evaluator of calls as it is, the renderer is the one that renders templates. -/
theorem Node.renderAllBy_evaluate (nodes : List Node) : ∀ ctx,
    renderAllBy registry.evaluator ctx nodes = renderAll registry ctx nodes := by
  induction nodes using Node.list_induction with
  | nil =>
    intro ctx
    rfl
  | text value rest ih =>
    intro ctx
    simp only [renderAllBy, renderAll, renderBy, render, ih]
  | reference p source rest ih =>
    intro ctx
    simp only [renderAllBy, renderAll, renderBy, render, ih]
  | call c source rest ih =>
    intro ctx
    simp only [renderAllBy, renderAll, renderBy, render, ih]
  | block o body closed rest ihbody ihrest =>
    intro ctx
    rcases o with test | ⟨binding, _ | iterable⟩
    · simp only [renderAllBy, renderAll, renderBy, render, ihbody, ihrest, Expression.testBy_evaluate]
    · simp only [renderAllBy, renderAll, renderBy, render, ihrest]
    · have hblock : renderBy registry.evaluator ctx (.block (.loop binding (some iterable)) body closed) =
          render registry ctx (.block (.loop binding (some iterable)) body closed) := by
        rw [renderBy, render, Expression.evaluateBy_evaluate]
        -- what is no list shows nothing on either side, a list its body for each place
        refine congrArg (iterable.evaluate registry ctx >>= ·) (funext fun result => ?_)
        rcases result with _ | (_ | _ | _ | _ | items | _)
        · rfl
        · rfl
        · rfl
        · rfl
        · rfl
        · simp only [ihbody]
        · rfl
      simp only [renderAllBy, renderAll, hblock, ihrest]

end Evaluate

/-! ### Relations of evaluators -/

/-- A relation of computations that is kept by what the renderer does between two calls. -/
structure Render.Relation (σ' σ : Type) where
  Holds : {α : Type} → Render σ' α → Render σ α → Prop
  pure : ∀ {α : Type} (a : α), Holds (Pure.pure a) (Pure.pure a)
  bind : ∀ {α β : Type} {m' : Render σ' α} {m : Render σ α} {next' : α → Render σ' β} {next : α → Render σ β},
    Holds m' m → (∀ a, Holds (next' a) (next a)) → Holds (m' >>= next') (m >>= next)

section Relations

variable {σ' σ : Type} (R : Render.Relation σ' σ) {evaluator' : Evaluator σ'} {evaluator : Evaluator σ}

theorem Render.Relation.concat {α : Type} {f' : α → Render σ' Text} {f : α → Render σ Text}
    (hf : ∀ a, R.Holds (f' a) (f a)) (l : List α) : R.Holds (Render.concat f' l) (Render.concat f l) := by
  induction l with
  | nil => exact R.pure []
  | cons a l ih => exact R.bind (hf a) fun first => R.bind ih fun others => R.pure (first ++ others)

theorem Operand.related_evaluateBy {o : Operand}
    (h : ∀ ctx, ∀ c ∈ o.calls, R.Holds (evaluator' ctx c) (evaluator ctx c)) (ctx : Context) :
    R.Holds (o.evaluateBy evaluator' ctx) (o.evaluateBy evaluator ctx) := by
  cases o with
  | simple a => exact R.pure _
  | call c => exact h ctx c List.mem_cons_self

theorem Expression.related_evaluateBy {e : Expression}
    (h : ∀ ctx, ∀ c ∈ e.calls, R.Holds (evaluator' ctx c) (evaluator ctx c)) (ctx : Context) :
    R.Holds (e.evaluateBy evaluator' ctx) (e.evaluateBy evaluator ctx) := by
  cases e with
  | operand o => exact o.related_evaluateBy R h ctx
  | compare c left right =>
    have hleft := left.related_evaluateBy R (fun ctx c hc => h ctx c (List.mem_append_left _ hc)) ctx
    have hright := right.related_evaluateBy R (fun ctx c hc => h ctx c (List.mem_append_right _ hc)) ctx
    exact R.bind hleft fun a => R.bind hright fun b => R.pure _

theorem Expression.related_testBy {test : Option Expression}
    (h : ∀ ctx, ∀ c ∈ (test.map Expression.calls).getD [], R.Holds (evaluator' ctx c) (evaluator ctx c))
    (ctx : Context) : R.Holds (Expression.testBy evaluator' ctx test) (Expression.testBy evaluator ctx test) := by
  cases test with
  | none => exact R.pure false
  | some e => exact R.bind (e.related_evaluateBy R h ctx) fun result => R.pure _

/-- Renders are related if the evaluations of all calls of the template are. The context is generalised because a
loop renders its body in others. -/
theorem Node.related_renderAllBy {nodes : List Node}
    (h : ∀ ctx, ∀ c ∈ allCalls nodes, R.Holds (evaluator' ctx c) (evaluator ctx c)) : ∀ ctx,
    R.Holds (renderAllBy evaluator' ctx nodes) (renderAllBy evaluator ctx nodes) := by
  induction nodes using Node.list_induction with
  | nil =>
    intro ctx
    exact R.pure []
  | text value rest ih =>
    intro ctx
    simp only [renderAllBy, renderBy]
    exact R.bind (R.pure value) fun first => R.bind (ih h ctx) fun others => R.pure _
  | reference p source rest ih =>
    intro ctx
    simp only [renderAllBy, renderBy]
    exact R.bind (R.pure _) fun first => R.bind (ih h ctx) fun others => R.pure _
  | call c source rest ih =>
    intro ctx
    have hrest := ih (fun ctx c hc => h ctx c (List.mem_cons_of_mem _ hc)) ctx
    have hcall := R.bind (h ctx c List.mem_cons_self) fun result =>
      R.pure ((result.map Value.toText).getD source)
    simp only [renderAllBy, renderBy]
    exact R.bind hcall fun first => R.bind hrest fun others => R.pure _
  | block o body closed rest ihbody ihrest =>
    intro ctx
    simp only [allCalls, calls, List.mem_append, or_assoc] at h
    have hopener : ∀ ctx, ∀ c ∈ o.calls, R.Holds (evaluator' ctx c) (evaluator ctx c) :=
      fun ctx c hc => h ctx c (.inl hc)
    have hbody := ihbody fun ctx c hc => h ctx c (.inr (.inl hc))
    have hrest := ihrest (fun ctx c hc => h ctx c (.inr (.inr hc))) ctx
    -- the test or the list is evaluated first, and then the body is rendered or not
    have hblock : R.Holds (renderBy evaluator' ctx (.block o body closed))
        (renderBy evaluator ctx (.block o body closed)) := by
      rcases o with test | ⟨binding, _ | iterable⟩
      · simp only [renderBy]
        refine R.bind (Expression.related_testBy R hopener ctx) fun holds => ?_
        cases holds with
        | true => exact hbody ctx
        | false => exact R.pure []
      · simp only [renderBy]
        exact R.pure []
      · simp only [renderBy]
        refine R.bind (iterable.related_evaluateBy R hopener ctx) fun result => ?_
        split
        · exact R.concat (fun _ => hbody _) _
        · exact R.pure []
    simp only [renderAllBy]
    exact R.bind hblock fun first => R.bind hrest fun others => R.pure _

end Relations

end BraceTemplate
