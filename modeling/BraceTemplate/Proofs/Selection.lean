import BraceTemplate.Proofs.Conditional
import BraceTemplate.Proofs.NormalValues

/-!
# Functions that select an argument

The built-in functions `conditional` and `default` give one of their arguments. They take absent arguments as null, so
a null that they give may stand for an absent argument, and a call with an absent argument that gives null counts as
absent. This guess is wrong where null itself was written and selected, and some other argument is absent. A number
that was written with so many digits that it is infinite is not passed along either: what a function gives is made
normal.

* `Call.answer_of_selects` — what a call of a function that takes absent arguments comes to;
* `Argument.passed?_eq_resolve?_iff` — when the selected argument arrives as it is;
* `selections_are_transparent_iff` — when a call comes to the same as the argument it selects.
-/

namespace BraceTemplate

/-! ## What the functions select -/

section Definitions

variable {σ : Type}

/-- The built-in function. -/
def Builtin.defaultDefinition : Definition σ :=
  ⟨"default", pureCallback 2 default, .ofNat 2, true⟩

theorem Registry.get?_registerBuiltins_default (r : Registry σ) (style : FunctionStyle) (clock : Clock σ) :
    (r.registerBuiltins style clock).get? "default" = some Builtin.defaultDefinition := by
  rw [registerBuiltins, get?_foldl_set]
  rfl

end Definitions

namespace Builtin

theorem conditional_of_values (test a b : Value) :
    conditional #[] ([test, a, b].map .value) = .ok (.ofValue (if test.isTruthy then a else b)) := by
  simp only [conditional, argument, argumentOr, List.map_cons, List.map_nil, List.getD_cons_zero, List.getD_cons_succ,
    Heap.isTruthy]
  cases test.isTruthy <;> rfl

theorem default_of_values (a b : Value) :
    default #[] ([a, b].map .value) = .ok (.ofValue (if a.isNull then b else a)) := by
  simp only [default, argument, List.map_cons, List.map_nil, List.getD_cons_zero, List.getD_cons_succ,
    Datum.isPresent]
  cases a.isNull <;> rfl

end Builtin

/-! ## Calls -/

/-- The value that stands for an argument: null if it is absent. -/
def Argument.valueOrNull (ctx : Context) (a : Argument) : Value :=
  (a.resolve? ctx).getD .null

/-- What an argument comes to when a function passes it along: it is made normal, and a null beside an absent argument
counts as absent. -/
def Argument.passed? (ctx : Context) (args : List Argument) (chosen : Argument) : Option Value :=
  (some (chosen.valueOrNull ctx).normalise).filter fun v =>
    !(v.isNull && (args.map (Argument.resolve? ctx)).any Option.isNone)

section Calls

variable {σ : Type} {registry : Registry σ} {ctx : Context} {d : Definition σ}

/-- A function that takes absent arguments takes all arguments. -/
theorem Definition.accept?_of_acceptsAbsent (h : d.acceptsAbsent = true) (args : List Argument) :
    d.accept? (args.map (Argument.resolve? ctx)) = some (args.map (Argument.valueOrNull ctx)) := by
  induction args with
  | nil => rfl
  | cons a args ih =>
    rw [accept?] at ih ⊢
    rw [List.map_cons, List.map_cons, List.mapM_cons, ih]
    cases hvalue : a.resolve? ctx with
    | none => simp [h, hvalue, Argument.valueOrNull]
    | some v => simp [hvalue, Argument.valueOrNull]

/-- A call of a built-in function that takes absent arguments and gives one of them. -/
theorem Call.answer_of_selects {c : Call} {name : Text} {arity : Nat} {f : Heap → List Datum → Except Fault Data}
    {chosen : Argument} (hfunction : registry.get? c.name = some d)
    (hd : d = ⟨name, Builtin.pureCallback arity f, .ofNat 2, true⟩) (hlength : 2 ≤ c.arguments.length)
    (hselects : f #[] ((c.arguments.map (Argument.valueOrNull ctx)).map .value) =
      .ok (.ofValue (chosen.valueOrNull ctx)))
    (host : σ) : (c.evaluate registry ctx host).answer = .ok (chosen.passed? ctx c.arguments) := by
  have hcallback : d.callback = Builtin.pureCallback arity f := by rw [hd]
  have habsent : d.acceptsAbsent = true := by rw [hd]
  have henough : d.minArguments.gtNat c.arguments.length = false := by
    simp only [hd, Number.gtNat_two hlength]
  have hinvoke := congrArg Ran.answer (Builtin.invoke_of_returns hcallback hselects host)
  rw [evaluate_of_accepted hfunction henough (Definition.accept?_of_acceptsAbsent habsent c.arguments),
    Render.bind_of_ok hinvoke]
  rfl

end Calls

/-! ## Arguments that are passed along -/

/-- A null that was written stands beside no absent argument, and a number that was written is finite. -/
structure Argument.Survives (ctx : Context) (args : List Argument) (chosen : Argument) : Prop where
  null : chosen = .literal .null → ∀ arg ∈ args, (arg.resolve? ctx).isSome
  number : ∀ n, chosen = .literal (.number n) → n.isFinite

namespace Argument

variable {ctx : Context} {args : List Argument} {chosen : Argument}

/-- A normal value that is not null is passed along as it is. -/
theorem passed?_of_isNormal {v : Value} (hvalue : chosen.resolve? ctx = some v) (hnormal : v.IsNormal)
    (hnull : v.isNull = false) : chosen.passed? ctx args = some v := by
  simp [passed?, valueOrNull, hvalue, Value.normalise_of_isNormal hnormal, Option.filter, hnull]

/-- Null is passed along unless an argument is absent. -/
theorem passed?_of_null (hnull : (chosen.valueOrNull ctx).normalise = .null) :
    chosen.passed? ctx args = if ∀ arg ∈ args, (arg.resolve? ctx).isSome then some .null else none := by
  have hisNull : Value.null.isNull = true := rfl
  rw [passed?, hnull, Option.filter, hisNull, Bool.true_and]
  by_cases hall : ∀ arg ∈ args, (arg.resolve? ctx).isSome
  · have hany : (args.map (resolve? ctx)).any Option.isNone = false := by
      simpa [Option.isSome_iff_ne_none] using hall
    rw [hany, if_pos hall]
    rfl
  · have hany : (args.map (resolve? ctx)).any Option.isNone = true := by
      simpa [Option.isSome_iff_ne_none] using hall
    rw [hany, if_neg hall]
    rfl

/-- What is selected arrives as it is exactly if it survives. -/
theorem passed?_eq_resolve?_iff (hctx : ctx.IsNormal) (hmem : chosen ∈ args) :
    chosen.passed? ctx args = chosen.resolve? ctx ↔ chosen.Survives ctx args := by
  cases chosen with
  | path p =>
    have hsurvives : (path p).Survives ctx args := ⟨nofun, nofun⟩
    refine iff_of_true ?_ hsurvives
    cases hvalue : (path p).resolve? ctx with
    | none =>
      -- null stands for the path, and is dropped because the path itself is absent
      have hnull : ((path p).valueOrNull ctx).normalise = .null := by
        rw [valueOrNull, hvalue]
        rfl
      rw [passed?_of_null hnull, if_neg]
      intro hall
      simpa [hvalue] using hall _ hmem
    | some v =>
      have hpresent : v.isNull = false := by
        simpa using (Option.filter_eq_some_iff.1 hvalue).2
      exact passed?_of_isNormal hvalue (hctx.present? hvalue) hpresent
  | literal l =>
    cases l with
    | null =>
      have hnull : ((literal .null).resolve? ctx) = some .null := rfl
      rw [passed?_of_null rfl, hnull]
      constructor
      · intro heq
        refine ⟨fun _ => ?_, nofun⟩
        by_contra hall
        rw [if_neg hall] at heq
        cases heq
      · intro h
        rw [if_pos (h.null rfl)]
    | text t => exact iff_of_true (passed?_of_isNormal rfl (.text t) rfl) ⟨nofun, nofun⟩
    | bool b => exact iff_of_true (passed?_of_isNormal rfl (.bool b) rfl) ⟨nofun, nofun⟩
    | number n =>
      by_cases hfinite : n.isFinite
      · refine iff_of_true (passed?_of_isNormal rfl (.number hfinite) rfl) ⟨nofun, ?_⟩
        rintro m heq
        cases heq
        exact hfinite
      · refine iff_of_false ?_ fun h => hfinite (h.number n rfl)
        -- the number becomes null on the way, whether or not that is dropped
        have hnull : ((literal (.number n)).valueOrNull ctx).normalise = .null := if_neg hfinite
        have hnumber : (literal (.number n)).resolve? ctx = some (.number n) := rfl
        rw [passed?_of_null hnull, hnumber]
        split
        · nofun
        · nofun

end Argument

/-! ## The two functions -/

section Selections

variable {σ : Type} {registry : Registry σ} {ctx : Context}

/-- The function `conditional` passes its second argument along if the first counts as true, and else its third. -/
theorem Call.answer_conditional_of_three
    (h : registry.get? "conditional" = some Builtin.conditionalDefinition) (t a b : Argument) (host : σ) :
    (Call.evaluate registry ctx ⟨"conditional", [t, a, b]⟩ host).answer =
      .ok ((if (t.valueOrNull ctx).isTruthy then a else b).passed? ctx [t, a, b]) := by
  have hlength : 2 ≤ 3 := by decide
  have hselects := Builtin.conditional_of_values (t.valueOrNull ctx) (a.valueOrNull ctx) (b.valueOrNull ctx)
  rw [← apply_ite (Argument.valueOrNull ctx)] at hselects
  exact Call.answer_of_selects (c := ⟨"conditional", [t, a, b]⟩) h rfl hlength hselects host

/-- The function `default` passes its first argument along if it is there and not null, and else its second. -/
theorem Call.answer_default_of_two
    (h : registry.get? "default" = some Builtin.defaultDefinition) (a b : Argument) (host : σ) :
    (Call.evaluate registry ctx ⟨"default", [a, b]⟩ host).answer =
      .ok ((if (a.valueOrNull ctx).isNull then b else a).passed? ctx [a, b]) := by
  have hlength : 2 ≤ 2 := by decide
  have hselects := Builtin.default_of_values (a.valueOrNull ctx) (b.valueOrNull ctx)
  rw [← apply_ite (Argument.valueOrNull ctx)] at hselects
  exact Call.answer_of_selects (c := ⟨"default", [a, b]⟩) h rfl hlength hselects host

/-- As a test, an absent argument is as good as null. -/
theorem Expression.test_simple (a : Argument) :
    test registry ctx (some (.operand (.simple a))) = pure (a.valueOrNull ctx).isTruthy := by
  simp only [test, evaluate, Operand.evaluate, pure_bind, Argument.valueOrNull]
  cases a.resolve? ctx <;> rfl

/-- The built-in functions that select give what they select, with two exceptions.

In every context that can be made, and with the two functions under their names, a call of `conditional` with three
paths or literals comes to the same as its second argument if the first is true as a test, and else to the same as its
third; and a call of `default` with two comes to the same as the first if that has a value other than null, and else to
the same as the second. This is so exactly if what is selected is neither a null that was written while some argument
of the call is absent, nor a number that was written with so many digits that it is infinite. -/
theorem selections_are_transparent_iff
    (hconditional : registry.get? "conditional" = some Builtin.conditionalDefinition)
    (hdefault : registry.get? "default" = some Builtin.defaultDefinition) (hctx : ctx.IsNormal) (t a b : Argument)
    (host : σ) :
    let answer := fun o : Operand => (Expression.evaluate registry ctx (.operand o) host).answer
    let chosen := match (Expression.test registry ctx (some (.operand (.simple t))) host).answer with
      | .ok true => a
      | _ => b
    let present := match answer (.simple a) with
      | .ok (some v) => if v.isNull then b else a
      | _ => b
    (answer (.call ⟨"conditional", [t, a, b]⟩) = answer (.simple chosen) ↔ chosen.Survives ctx [t, a, b]) ∧
    (answer (.call ⟨"default", [a, b]⟩) = answer (.simple present) ↔ present.Survives ctx [a, b]) := by
  intro answer chosen present
  have hanswer : ∀ arg : Argument, answer (.simple arg) = .ok (arg.resolve? ctx) := fun _ => rfl
  have hchosen : chosen = if (t.valueOrNull ctx).isTruthy then a else b := by
    simp only [chosen, Expression.test_simple]
    cases (t.valueOrNull ctx).isTruthy <;> rfl
  have hpresent : present = if (a.valueOrNull ctx).isNull then b else a := by
    have hvalue : ∀ r : Option Value, (match (Except.ok r : Except Fault (Option Value)) with
        | .ok (some v) => if v.isNull then b else a
        | _ => b) = if (r.getD .null).isNull then b else a := by
      intro r
      cases r <;> rfl
    exact hvalue (a.resolve? ctx)
  constructor
  · have hcall : answer (.call ⟨"conditional", [t, a, b]⟩) = .ok (chosen.passed? ctx [t, a, b]) := by
      rw [hchosen]
      exact Call.answer_conditional_of_three hconditional t a b host
    have hmem : chosen ∈ [t, a, b] := by
      rw [hchosen]
      split <;> simp
    rw [hcall, hanswer, Except.ok.injEq]
    exact Argument.passed?_eq_resolve?_iff hctx hmem
  · have hcall : answer (.call ⟨"default", [a, b]⟩) = .ok (present.passed? ctx [a, b]) := by
      rw [hpresent]
      exact Call.answer_default_of_two hdefault a b host
    have hmem : present ∈ [a, b] := by
      rw [hpresent]
      split <;> simp
    rw [hcall, hanswer, Except.ok.injEq]
    exact Argument.passed?_eq_resolve?_iff hctx hmem

/-- A written null is not selected by an absent test, and a name takes the place of what is absent. -/
theorem selections_are_transparent_iff_absent_test :
    let registry : Registry Unit := Registry.empty.registerBuiltins ⟨"- ", "..."⟩ fun _ => none
    let ctx : Context := ⟨[("name", .text "Ann")], [], []⟩
    let missing : Argument := .path ⟨"missing", []⟩
    let name : Argument := .path ⟨"name", []⟩
    let answer := fun o : Operand => (Expression.evaluate registry ctx (.operand o) ()).answer
    (registry.get? "conditional" = some Builtin.conditionalDefinition ∧
      registry.get? "default" = some Builtin.defaultDefinition ∧ ctx.IsNormal) ∧
    answer (.call ⟨"conditional", [missing, .literal .null, name]⟩) = answer (.simple name) ∧
    answer (.call ⟨"default", [missing, name]⟩) = answer (.simple name) := by
  intro registry ctx missing name answer
  have hconditional := Registry.get?_registerBuiltins_conditional (σ := Unit) .empty ⟨"- ", "..."⟩ fun _ => none
  have hdefault := Registry.get?_registerBuiltins_default (σ := Unit) .empty ⟨"- ", "..."⟩ fun _ => none
  have hctx : ctx.IsNormal := by
    apply Context.isNormal_of_bindings
    exact .mapping (List.pairwise_singleton _ _) (List.forall_mem_singleton.2 (.text "Ann"))
  have hsurvives : ∀ args, name.Survives ctx args := fun _ => ⟨nofun, nofun⟩
  refine ⟨⟨hconditional, hdefault, hctx⟩, ?_, ?_⟩
  · exact (selections_are_transparent_iff hconditional hdefault hctx missing (.literal .null) name ()).1.2 (hsurvives _)
  · exact (selections_are_transparent_iff hconditional hdefault hctx missing missing name ()).2.2 (hsurvives _)

/-- A null that was written and selected is lost beside an absent argument that was not selected. -/
theorem selected_null_is_lost :
    let registry : Registry Unit := Registry.empty.registerBuiltins ⟨"- ", "..."⟩ fun _ => none
    let ctx := Context.empty
    let c : Call := ⟨"conditional", [.literal (.bool true), .literal .null, .path ⟨"missing", []⟩]⟩
    let answer := fun o : Operand => (Expression.evaluate registry ctx (.operand o) ()).answer
    Expression.ofText? "conditional(true, null, missing)" = some (.operand (.call c)) ∧
    (Expression.test registry ctx (some (.operand (.simple (.literal (.bool true))))) ()).answer = .ok true ∧
    answer (.call c) = .ok none ∧ answer (.simple (.literal .null)) = .ok (some .null) := by
  intro registry ctx c answer
  have hconditional := Registry.get?_registerBuiltins_conditional (σ := Unit) .empty ⟨"- ", "..."⟩ fun _ => none
  have hcall : (c.evaluate registry ctx ()).answer = .ok none := by
    rw [Call.answer_conditional_of_three hconditional]
    rfl
  exact ⟨by decide +kernel, rfl, hcall, rfl⟩

end Selections

end BraceTemplate
