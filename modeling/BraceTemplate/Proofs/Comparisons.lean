import BraceTemplate.Proofs.Equality
import BraceTemplate.Proofs.Grammar

/-!
# How comparisons go together

Equality is decided by structure, order by the sign of a difference or by code units. Between two numbers or two texts
the two fit together: there is an order, and it is the order of equals exactly if the two are equal. The one exception
are two equal infinities, which have no difference. No value of a context and no result of a function is infinite, but
a number in a template may be written with so many digits that it is.

* `Number.difference_eq_none_iff`, `Number.same_iff_of_difference` — differences and equality of numbers;
* `Value.order?_of_comparable` — order and equality of values;
* `Operand.isInfinite_iff_of_evaluate` — where an infinity comes from;
* `Expression.answer_compare` — a comparison of pure operands depends on their answers alone;
* `Comparison.laws_of_comparable` — the laws for two numbers or two texts;
* `comparisons_are_consistent` — the laws of the six comparisons of two operands.
-/

namespace BraceTemplate

/-! ## Numbers -/

namespace Number

/-- What is equal to an infinity is that infinity. -/
theorem same_infinite_iff {negative : Bool} {n : Number} : (infinite negative).same n ↔ n = infinite negative := by
  cases n with
  | nan => simp [same]
  | infinite t => simp [same, eq_comm]
  | finite t m k => simp [same]

theorem difference_swap (a b : Number) : (difference a b).map Ordering.swap = difference b a := by
  cases a with
  | nan => cases b <;> rfl
  | infinite s =>
    cases b with
    | nan => rfl
    | infinite t => cases s <;> cases t <;> rfl
    | finite t n l => cases s <;> rfl
  | finite s m k =>
    cases b with
    | nan => rfl
    | infinite t => cases t <;> rfl
    | finite t n l => simp only [difference, Option.map_some, Int.compare_swap]

/-- There is no difference with a NaN and between two equal infinities. -/
theorem difference_eq_none_iff {a b : Number} (ha : a.isNaN = false) (hb : b.isNaN = false) :
    difference a b = none ↔ ∃ s, a = infinite s ∧ b = infinite s := by
  cases a with
  | nan => cases ha
  | infinite s =>
    cases b with
    | nan => cases hb
    | infinite t => cases s <;> cases t <;> simp [difference]
    | finite t n l => simp [difference]
  | finite s m k =>
    cases b with
    | nan => cases hb
    | infinite t => simp [difference]
    | finite t n l => simp [difference]

/-- Where there is a difference, it is nothing exactly between equal numbers. -/
theorem same_iff_of_difference {a b : Number} {o : Ordering} (h : difference a b = some o) :
    a.same b ↔ o = .eq := by
  cases a with
  | nan => cases h
  | infinite s =>
    cases b with
    | nan => cases h
    | infinite t => cases s <;> cases t <;> cases h <;> decide
    | finite t n l => cases s <;> simp_all [difference, same, eq_comm]
  | finite s m k =>
    cases b with
    | nan => cases h
    | infinite t => cases t <;> simp_all [difference, same, eq_comm]
    | finite t n l =>
      rw [difference, Option.some.injEq] at h
      rw [same, decide_eq_true_eq, ← h, compare_eq_iff_eq]

end Number

/-! ## Values -/

namespace Value

theorem textOrder_swap (a b : Text) : (textOrder a b).swap = textOrder b a := by
  unfold textOrder
  by_cases hab : a < b
  · simp [hab, List.lt_asymm hab]
  · by_cases hba : b < a
    · simp [hab, hba]
    · simp [hab, hba]

theorem textOrder_eq_iff {a b : Text} : textOrder a b = .eq ↔ a = b := by
  unfold textOrder
  constructor
  · intro h
    split_ifs at h with hab hba
    exact List.le_antisymm hba hab
  · rintro rfl
    simp [List.lt_irrefl]

/-- Two numbers or two texts. -/
inductive Comparable : Value → Value → Prop
  | numbers (a b : Number) : Comparable (number a) (number b)
  | texts (s t : Text) : Comparable (text s) (text t)

/-- The order of two values, seen from the other side. -/
theorem order?_swap (a b : Value) : (a.order? b).map Ordering.swap = b.order? a := by
  cases a with
  | number x =>
    cases b with
    | number y => exact Number.difference_swap x y
    | null | bool | text | list | mapping => rfl
  | text s =>
    cases b with
    | text t => exact congrArg some (textOrder_swap s t)
    | null | bool | number | list | mapping => rfl
  | null | bool | list | mapping => cases b <;> rfl

theorem order?_of_not_comparable {a b : Value} (h : ¬ Comparable a b) : a.order? b = none := by
  cases a with
  | number x =>
    cases b with
    | number y => exact absurd (.numbers x y) h
    | null | bool | text | list | mapping => rfl
  | text s =>
    cases b with
    | text t => exact absurd (.texts s t) h
    | null | bool | number | list | mapping => rfl
  | null | bool | list | mapping => cases b <;> rfl

/-- No NaN. -/
def IsNumeral (v : Value) : Prop :=
  ∀ n, v = number n → n.isNaN = false

/-- Two numbers or two texts have an order, and it is that of equals exactly if they are equal, or they are the same
infinity. -/
theorem order?_of_comparable {a b : Value} (h : Comparable a b) (ha : a.IsNumeral) (hb : b.IsNumeral) :
    (∃ o, a.order? b = some o ∧ (a.same b ↔ o = .eq)) ∨
      ∃ s, a = number (.infinite s) ∧ b = number (.infinite s) := by
  cases h with
  | numbers x y =>
    cases hdifference : Number.difference x y with
    | none =>
      rcases (Number.difference_eq_none_iff (ha x rfl) (hb y rfl)).1 hdifference with ⟨s, rfl, rfl⟩
      exact .inr ⟨s, rfl, rfl⟩
    | some o => exact .inl ⟨o, hdifference, Number.same_iff_of_difference hdifference⟩
  | texts s t =>
    refine .inl ⟨textOrder s t, rfl, ?_⟩
    rw [same_text_iff, textOrder_eq_iff, text.injEq, eq_comm]

end Value

/-! ## Pure operands -/

section Operands

variable {σ : Type}

/-- A function whose outcome depends on nothing but its arguments, and which leaves the host as it was. -/
def Callback.IsPure (c : Callback σ) : Prop :=
  ∃ outcome : Heap → List Datum → Outcome, ∀ heap args host, c.run heap args host = (outcome heap args, host)

theorem Builtin.isPure_pureCallback (arity : Nat) (f : Heap → List Datum → Except Fault Data) :
    (pureCallback arity f : Callback σ).IsPure := by
  -- with a host of one state there is nothing else that the outcome could depend on
  refine ⟨fun heap args => ((pureCallback arity f : Callback Unit).run heap args ()).1, ?_⟩
  intro heap args host
  simp only [pureCallback]
  cases f heap args with
  | ok data => rfl
  | error fault => rfl

/-- A path, a literal or a call of a pure function. -/
def Operand.IsPure (registry : Registry σ) (o : Operand) : Prop :=
  ∀ c ∈ o.calls, ∀ d, registry.get? c.name = some d → d.callback.IsPure

/-- A computation that comes to the same in every state of the host and leaves it as it was. -/
def Render.IsSteady {α : Type} (m : Render σ α) : Prop :=
  ∃ answer events, ∀ host, m host = ⟨answer, host, events⟩

theorem Render.IsSteady.pure {α : Type} (a : α) : IsSteady (Pure.pure a : Render σ α) :=
  ⟨.ok a, [], fun _ => rfl⟩

theorem Render.IsSteady.bind {α β : Type} {m : Render σ α} {next : α → Render σ β} (hm : m.IsSteady)
    (hnext : ∀ a, (next a).IsSteady) : (m >>= next).IsSteady := by
  rcases hm with ⟨answer, events, hrun⟩
  cases answer with
  | error fault =>
    refine ⟨.error fault, events, ?_⟩
    intro host
    have hanswer : (m host).answer = .error fault := by rw [hrun]
    rw [bind_of_error hanswer, hrun]
  | ok a =>
    rcases hnext a with ⟨answer', events', hrun'⟩
    refine ⟨answer', events ++ events', ?_⟩
    intro host
    have hanswer : (m host).answer = .ok a := by rw [hrun]
    rw [bind_of_ok hanswer, hrun, hrun']

theorem Definition.isSteady_invoke {d : Definition σ} (h : d.callback.IsPure) (args : List Value) :
    (d.invoke args).IsSteady := by
  rcases h with ⟨outcome, hrun⟩
  have hinvoke : ∀ host, d.invoke args host = ⟨(outcome #[] (args.map .value)).answer, host,
      .invoked d.name args :: ((outcome #[] (args.map .value)).complaint?.map (.failed d.name)).toList⟩ := by
    intro host
    rw [d.invoke_eq, hrun]
  exact ⟨_, _, hinvoke⟩

/-- A pure operand is evaluated to the same in every state of the host. -/
theorem Operand.isSteady_evaluate {registry : Registry σ} {o : Operand} (h : o.IsPure registry) (ctx : Context) :
    (o.evaluate registry ctx).IsSteady := by
  cases o with
  | simple a => exact .pure _
  | call c =>
    rw [evaluate]
    rcases c.evaluate_cases registry ctx with hrefused | ⟨d, values, hfunction, -, hcall⟩
    · rw [hrefused]
      exact .pure none
    · rw [hcall]
      exact (Definition.isSteady_invoke (h c List.mem_cons_self d hfunction) values).bind fun _ => .pure _

/-! ## Numbers that are written -/

theorem Number.isNaN_ofRatio (negative : Bool) (num den : Nat) : (ofRatio negative num den).isNaN = false := by
  unfold ofRatio
  dsimp only
  split_ifs <;> rfl

/-- Digits are never read as a NaN. -/
theorem Number.isNaN_ofDecimal (negative : Bool) (digits : Nat) (exponent : Int) :
    (ofDecimal negative digits exponent).isNaN = false := by
  unfold ofDecimal
  dsimp only
  split_ifs
  · rfl
  · rfl
  · rfl
  · cases exponent <;> exact isNaN_ofRatio _ _ _

theorem Number.isNaN_of_signed {n : Number} {s : Text} (h : Signed n s) : n.isNaN = false := by
  cases h with
  | unsigned h => cases h <;> exact isNaN_ofDecimal _ _ _
  | negative h => cases h <;> exact isNaN_ofDecimal _ _ _

/-- Every lexeme of a cut is spelled somewhere in the text. -/
theorem Lexeme.exists_spelling_of_cut {t : Text} {ls : List Lexeme} (h : Cut t ls) :
    ∀ l ∈ ls, ∃ s, Spelling l s := by
  induction h with
  | nil => exact List.forall_mem_nil _
  | blank _ _ ih => exact ih
  | lexeme hlongest _ ih => exact List.forall_mem_cons.2 ⟨⟨_, hlongest.1⟩, ih⟩

/-- No text spells a NaN. -/
theorem Operand.isNaN_of_ofText? {t : Text} {n : Number}
    (h : Expression.ofText? t = some (.operand (.simple (.literal (.number n))))) : n.isNaN = false := by
  rcases Expression.ofText?_eq_some_iff.1 h with ⟨ls, hcut, hderives⟩
  have hlexemes : ls = [.number n] := by
    cases hderives with
    | operand ho =>
      cases ho with
      | simple ha =>
        cases ha with
        | literal hl =>
          cases hl
          rfl
  have hmem : Lexeme.number n ∈ ls := by
    rw [hlexemes]
    exact List.mem_cons_self
  rcases Lexeme.exists_spelling_of_cut hcut _ hmem with ⟨s, hs⟩
  cases hs with
  | number hsigned => exact Number.isNaN_of_signed hsigned

/-! ## Values of operands -/

/-- A number that is written with so many digits that it is infinite. -/
def Operand.IsInfinite (o : Operand) : Prop :=
  ∃ negative, o = .simple (.literal (.number (.infinite negative)))

section Values

variable {registry : Registry σ} {ctx : Context} {host : σ} {o : Operand}

/-- Neither a context nor a function gives a NaN, and none can be written. -/
theorem Operand.isNumeral_of_evaluate (hctx : ctx.IsNormal) {t : Text}
    (hread : Expression.ofText? t = some (.operand o)) {v : Value}
    (h : (o.evaluate registry ctx host).answer = .ok (some v)) : v.IsNumeral := by
  rintro n rfl
  rcases Operand.isNormal_of_evaluate hctx h with ⟨l, rfl⟩ | hnormal
  · cases l with
    | number m =>
      cases h
      exact Operand.isNaN_of_ofText? hread
    | text | bool | null => cases h
  · cases hnormal with
    | number hfinite =>
      cases n with
      | nan => cases hfinite
      | infinite | finite => rfl

/-- Neither a context nor a function gives an infinity, so it was written. -/
theorem Operand.isInfinite_iff_of_evaluate (hctx : ctx.IsNormal) {v : Value}
    (h : (o.evaluate registry ctx host).answer = .ok (some v)) :
    o.IsInfinite ↔ ∃ negative, v = .number (.infinite negative) := by
  constructor
  · rintro ⟨negative, rfl⟩
    cases h
    exact ⟨negative, rfl⟩
  · rintro ⟨negative, rfl⟩
    rcases Operand.isNormal_of_evaluate hctx h with ⟨l, rfl⟩ | hnormal
    · cases l with
      | number m =>
        cases h
        exact ⟨negative, rfl⟩
      | text | bool | null => cases h
    · cases hnormal with
      | number hfinite => cases hfinite

end Values

/-- What a comparison of pure operands is evaluated to depends on their answers alone. -/
theorem Expression.answer_compare {registry : Registry σ} {ctx : Context} {left right : Operand}
    (hleft : left.IsPure registry) (hright : right.IsPure registry) (c : Comparison) (host : σ) :
    (evaluate registry ctx (.compare c left right) host).answer = (do
      let u ← (left.evaluate registry ctx host).answer
      let v ← (right.evaluate registry ctx host).answer
      return some (.bool (c.holds u v))) := by
  rcases Operand.isSteady_evaluate hleft ctx with ⟨answer, events, hrun⟩
  rcases Operand.isSteady_evaluate hright ctx with ⟨answer', events', hrun'⟩
  have hanswer : (left.evaluate registry ctx host).answer = answer := by rw [hrun]
  have hanswer' : (right.evaluate registry ctx host).answer = answer' := by rw [hrun']
  rw [evaluate, hanswer, hanswer']
  cases answer with
  | error fault =>
    rw [Render.bind_of_error hanswer]
    rfl
  | ok u =>
    rw [Render.bind_of_ok hanswer, hrun]
    cases answer' with
    | error fault =>
      simp only [Render.bind_of_error hanswer']
      rfl
    | ok v =>
      simp only [Render.bind_of_ok hanswer']
      rfl

end Operands

/-! ## The laws -/

/-- Two sides that both have a value, a number on either or a text on either. -/
def Value.AreComparable (u v : Option Value) : Prop :=
  ∃ x y, u = some x ∧ v = some y ∧ x.Comparable y

namespace Comparison

theorem holds_unequal (u v : Option Value) : unequal.holds u v = !equal.holds u v := by
  cases u with
  | none => rfl
  | some x =>
    cases v with
    | none => rfl
    | some y => rfl

theorem holds_greater_swap (u v : Option Value) : greater.holds v u = less.holds u v := by
  cases u with
  | none => cases v <;> rfl
  | some x =>
    cases v with
    | none => rfl
    | some y =>
      simp only [holds, holdsFor, ← Value.order?_swap x y]
      cases x.order? y with
      | none => rfl
      | some o => cases o <;> rfl

/-- Sides that are not comparable have no order. -/
theorem holds_of_not_comparable {u v : Option Value} (h : ¬ Value.AreComparable u v) :
    ∀ c ∈ [less, greater, atMost, atLeast], c.holds u v = false := by
  cases u with
  | none => simp [holds]
  | some x =>
    cases v with
    | none => simp [holds]
    | some y =>
      have hnone : x.order? y = none := by
        apply Value.order?_of_not_comparable
        intro hxy
        exact h ⟨x, y, rfl, rfl, hxy⟩
      simp [holds, holdsFor, hnone]

/-- Where there is an order that agrees with equality, it decides every comparison. -/
theorem holds_of_order {x y : Value} {o : Ordering} (horder : x.order? y = some o) (hsame : x.same y ↔ o = .eq)
    (c : Comparison) : c.holds (some x) (some y) = c.admits o := by
  have hequal : x.same y = (o == .eq) := by
    rw [Bool.eq_iff_iff, hsame, beq_iff_eq]
  cases c with
  | equal => exact hequal
  | unequal => exact congrArg not hequal
  | less | greater | atMost | atLeast => simp only [holds, holdsFor, horder]

/-- Every order is admitted by exactly one of three comparisons. -/
theorem existsUnique_admits (o : Ordering) : ∃! c, c ∈ [less, equal, greater] ∧ c.admits o = true := by
  have hunique : ∀ c ∈ [less, equal, greater], ∀ c' ∈ [less, equal, greater],
      c.admits o = true → c'.admits o = true → c = c' := by
    cases o <;> decide
  have hexists : ∃ c, c ∈ [less, equal, greater] ∧ c.admits o = true := by
    cases o with
    | lt => exact ⟨less, by decide, rfl⟩
    | eq => exact ⟨equal, by decide, rfl⟩
    | gt => exact ⟨greater, by decide, rfl⟩
  rcases hexists with ⟨c, hc, hadmits⟩
  refine ⟨c, ⟨hc, hadmits⟩, ?_⟩
  rintro c' ⟨hc', hadmits'⟩
  exact hunique c' hc' c hc hadmits' hadmits

/-- Two numbers or two texts are in exactly one of three orders, and two comparisons hold for either of two orders. Two
equal infinities are the exception: they are equal, but neither is said to be at most or at least the other. -/
theorem laws_of_comparable {x y : Value} (h : x.Comparable y) (hx : x.IsNumeral) (hy : y.IsNumeral) :
    let holds := fun c : Comparison => c.holds (some x) (some y) = true
    (∃! c, c ∈ [less, equal, greater] ∧ holds c) ∧
    (holds atMost ↔ holds less ∨ holds equal ∧ ¬ ∃ s, x = .number (.infinite s)) ∧
    (holds atLeast ↔ holds greater ∨ holds equal ∧ ¬ ∃ s, x = .number (.infinite s)) := by
  intro holds
  rcases Value.order?_of_comparable h hx hy with ⟨o, horder, hsame⟩ | ⟨s, rfl, rfl⟩
  · have hholds : ∀ c, holds c ↔ c.admits o = true := by
      intro c
      simp only [holds, holds_of_order horder hsame]
    -- equals that have a difference are no infinities
    have hfinite : o = .eq → ¬ ∃ s, x = .number (.infinite s) := by
      rintro rfl ⟨s, rfl⟩
      rcases Value.same_number_iff.1 (hsame.2 rfl) with ⟨n, rfl, hn⟩
      rw [Number.same_infinite_iff.1 hn, Value.order?, Number.difference_eq_none_iff rfl rfl |>.2 ⟨s, rfl, rfl⟩] at horder
      cases horder
    simp only [hholds]
    refine ⟨existsUnique_admits o, ?_⟩
    cases o with
    | lt => simp [admits]
    | eq => simp [admits, hfinite rfl]
    | gt => simp [admits]
  · have horder : Value.order? (.number (.infinite s)) (.number (.infinite s)) = none :=
      Number.difference_eq_none_iff rfl rfl |>.2 ⟨s, rfl, rfl⟩
    have hequal : holds equal := Value.same_number_iff.2 ⟨_, rfl, Number.same_infinite_iff.2 rfl⟩
    have hunordered : ∀ c ∈ [less, greater, atMost, atLeast], ¬ holds c := by
      simp [holds, Comparison.holds, holdsFor, horder]
    simp only [List.forall_mem_cons, List.not_mem_nil, false_implies, implies_true, and_true] at hunordered
    refine ⟨⟨equal, ⟨by decide, hequal⟩, ?_⟩, ?_⟩
    · rintro c ⟨hc, hholds⟩
      simp only [List.mem_cons, List.not_mem_nil, or_false] at hc
      rcases hc with rfl | rfl | rfl
      · exact absurd hholds hunordered.1
      · rfl
      · exact absurd hholds hunordered.2.1
    · simp [hunordered]

end Comparison

/-! ## Comparisons of operands -/

section Comparisons

variable {σ : Type}

/-- A comparison of two operands is evaluated to a truth value. -/
def Comparison.Gives (registry : Registry σ) (ctx : Context) (host : σ) (c : Comparison) (left right : Operand)
    (r : Bool) : Prop :=
  (Expression.evaluate registry ctx (.compare c left right) host).answer = .ok (some (.bool r))

theorem Comparison.gives_iff {registry : Registry σ} {left right : Operand} (hleft : left.IsPure registry)
    (hright : right.IsPure registry) {ctx : Context} {host : σ} {c : Comparison} {r : Bool} :
    Gives registry ctx host c left right r ↔ ∃ u v, (left.evaluate registry ctx host).answer = .ok u ∧
      (right.evaluate registry ctx host).answer = .ok v ∧ c.holds u v = r := by
  rw [Gives, Expression.answer_compare hleft hright]
  constructor
  · intro h
    rcases exists_of_bind_eq_ok h with ⟨u, hu, h⟩
    rcases exists_of_bind_eq_ok h with ⟨v, hv, h⟩
    cases h
    exact ⟨u, v, hu, hv, rfl⟩
  · rintro ⟨u, v, hu, hv, rfl⟩
    rw [hu, hv]
    rfl

/-- The six comparisons of two operands go together.

For every context that can be made, and for all operands that can be written, calls of pure functions among them: a
comparison has a truth value unless one of the operands fails. The two are unequal exactly if they are not equal, and
one is less than the other exactly if the other is greater than it. Where both have a number or both a text, exactly
one of less, equal and greater holds, and the left side is at most the right one if it is less or equal, and at least
if it is greater or equal, except that two equal infinities are neither. In every other case there is no order at
all. -/
theorem comparisons_are_consistent {registry : Registry σ} {ctx : Context} (hctx : ctx.IsNormal) {s t : Text}
    {a b : Operand} (ha : Expression.ofText? s = some (.operand a)) (hb : Expression.ofText? t = some (.operand b))
    (hpure : a.IsPure registry) (hpure' : b.IsPure registry) (host : σ) :
    let gives := Comparison.Gives registry ctx host
    let left := (a.evaluate registry ctx host).answer
    let right := (b.evaluate registry ctx host).answer
    (∀ c, (∃ r, gives c a b r) ↔ (∃ u, left = .ok u) ∧ ∃ v, right = .ok v) ∧
    (∀ r, gives .unequal a b r ↔ gives .equal a b !r) ∧
    (∀ r, gives .less a b r ↔ gives .greater b a r) ∧
    ∀ u v, left = .ok u → right = .ok v →
      (Value.AreComparable u v →
        (∃! c, c ∈ [.less, .equal, .greater] ∧ gives c a b true) ∧
        (gives .atMost a b true ↔ gives .less a b true ∨ gives .equal a b true ∧ ¬ a.IsInfinite) ∧
        (gives .atLeast a b true ↔ gives .greater a b true ∨ gives .equal a b true ∧ ¬ a.IsInfinite)) ∧
      (¬ Value.AreComparable u v → ∀ c ∈ [.less, .greater, .atMost, .atLeast], gives c a b false) := by
  intro gives left right
  refine ⟨?_, ?_, ?_, ?_⟩
  · intro c
    simp only [gives, Comparison.gives_iff hpure hpure']
    constructor
    · rintro ⟨r, u, v, hu, hv, -⟩
      exact ⟨⟨u, hu⟩, ⟨v, hv⟩⟩
    · rintro ⟨⟨u, hu⟩, ⟨v, hv⟩⟩
      exact ⟨_, u, v, hu, hv, rfl⟩
  · intro r
    simp only [gives, Comparison.gives_iff hpure hpure', Comparison.holds_unequal, Bool.not_eq_eq_eq_not]
  · intro r
    simp only [gives, Comparison.gives_iff hpure hpure', Comparison.gives_iff hpure' hpure]
    constructor
    · rintro ⟨u, v, hu, hv, hr⟩
      exact ⟨v, u, hv, hu, (Comparison.holds_greater_swap u v).trans hr⟩
    · rintro ⟨v, u, hv, hu, hr⟩
      exact ⟨u, v, hu, hv, (Comparison.holds_greater_swap u v).symm.trans hr⟩
  · intro u v hu hv
    have hgives : ∀ c r, gives c a b r ↔ c.holds u v = r := by
      intro c r
      simp only [gives, Comparison.gives_iff hpure hpure']
      constructor
      · rintro ⟨u', v', hu', hv', hr⟩
        cases hu.symm.trans hu'
        cases hv.symm.trans hv'
        exact hr
      · intro hr
        exact ⟨u, v, hu, hv, hr⟩
    simp only [hgives]
    constructor
    · rintro ⟨x, y, rfl, rfl, hxy⟩
      rw [Operand.isInfinite_iff_of_evaluate hctx hu]
      exact Comparison.laws_of_comparable hxy (Operand.isNumeral_of_evaluate hctx ha hu)
        (Operand.isNumeral_of_evaluate hctx hb hv)
    · exact Comparison.holds_of_not_comparable

/-- The length of a list beside a number: a call of a pure function and a literal. -/
theorem comparisons_are_consistent_length :
    let len : Definition Unit := ⟨"len", Builtin.pureCallback 1 Builtin.len, .ofNat 1, false⟩
    let registry : Registry Unit := ⟨[len]⟩
    let ctx : Context := ⟨[("items", .ofList [.null, .null])], [], []⟩
    let a : Operand := .call ⟨"len", [.path ⟨"items", []⟩]⟩
    let b : Operand := .simple (.literal (.number (.ofNat 2)))
    let gives := Comparison.Gives registry ctx ()
    (ctx.IsNormal ∧ Expression.ofText? "len(items)" = some (.operand a) ∧ Expression.ofText? "2" = some (.operand b) ∧
      a.IsPure registry ∧ b.IsPure registry ∧
      (a.evaluate registry ctx ()).answer = .ok (some (.ofNat 2)) ∧
      (b.evaluate registry ctx ()).answer = .ok (some (.ofNat 2))) ∧
    (∃! c, c ∈ [.less, .equal, .greater] ∧ gives c a b true) ∧
    (gives .atMost a b true ↔ gives .less a b true ∨ gives .equal a b true ∧ ¬ a.IsInfinite) ∧
    (gives .atLeast a b true ↔ gives .greater a b true ∨ gives .equal a b true ∧ ¬ a.IsInfinite) := by
  intro len registry ctx a b gives
  have hctx : ctx.IsNormal := by
    apply Context.isNormal_of_bindings
    refine .mapping (List.pairwise_singleton _ _) (List.forall_mem_singleton.2 (.ofList ?_))
    exact List.forall_mem_cons.2 ⟨.null, List.forall_mem_singleton.2 .null⟩
  have ha : Expression.ofText? "len(items)" = some (.operand a) := by decide +kernel
  have hb : Expression.ofText? "2" = some (.operand b) := by decide +kernel
  have hpure : a.IsPure registry := by
    intro c hc d hd
    cases List.mem_singleton.1 hc
    cases hd
    exact Builtin.isPure_pureCallback 1 Builtin.len
  have hpure' : b.IsPure registry := List.forall_mem_nil _
  have hleft : (a.evaluate registry ctx ()).answer = .ok (some (.ofNat 2)) := by
    have hfunction : registry.get? "len" = some len := rfl
    have henough : len.minArguments.gtNat 1 = false := by
      have hone : (Number.ofNat 1).gtNat 1 = false := by decide +kernel
      simp only [len, hone]
    have haccept : len.accept? ([.path ⟨"items", []⟩].map (Argument.resolve? ctx)) =
        some [.ofList [.null, .null]] := rfl
    have hreturns : Builtin.len #[] ([.ofList [.null, .null]].map .value) = .ok (.ofValue (.ofNat 2)) := rfl
    have htwo : (Value.ofNat 2).normalise = .ofNat 2 := Value.normalise_of_isNormal (.number (by decide +kernel))
    have hinvoke : (len.invoke [.ofList [.null, .null]] ()).answer = .ok (some (.ofNat 2)) := by
      rw [Builtin.invoke_of_returns (d := len) rfl hreturns, htwo]
    have hcall := Call.evaluate_of_accepted (c := ⟨"len", [.path ⟨"items", []⟩]⟩) hfunction henough haccept
    rw [Operand.evaluate, hcall, Render.bind_of_ok hinvoke]
    rfl
  have hright : (b.evaluate registry ctx ()).answer = .ok (some (.ofNat 2)) := rfl
  have hlaws := (comparisons_are_consistent hctx ha hb hpure hpure' ()).2.2.2 _ _ hleft hright
  exact ⟨⟨hctx, ha, hb, hpure, hpure', hleft, hright⟩, hlaws.1 ⟨_, _, rfl, rfl, .numbers _ _⟩⟩

/-- A number with more digits than a float can hold is infinite, and is then equal to itself but neither at most nor at
least itself. -/
theorem equal_infinities_have_no_order :
    let digits : Text := List.replicate 309 (CodeUnit.ofChar '9')
    let a : Operand := .simple (.literal (.number (.infinite false)))
    let gives := Comparison.Gives (Registry.empty : Registry Unit) .empty ()
    Expression.ofText? digits = some (.operand a) ∧
    Expression.ofText? (digits ++ Text.ofString " >= " ++ digits) = some (.compare .atLeast a a) ∧
    gives .equal a a true ∧ gives .atLeast a a false ∧ gives .atMost a a false := by
  intro digits a gives
  refine ⟨by decide +kernel, by decide +kernel, rfl, rfl, rfl⟩

end Comparisons

end BraceTemplate
