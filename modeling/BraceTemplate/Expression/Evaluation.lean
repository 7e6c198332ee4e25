import BraceTemplate.Expression
import BraceTemplate.Context
import BraceTemplate.Render

/-!
# Evaluating expressions

An expression resolves to a value or does not resolve at all: a path to nothing or to null, a call of
an unknown function, with too few arguments, with an absent argument that the function does not
accept, or a call that fails. A comparison always resolves; with a side that does not, only `!=`
holds.
-/

namespace BraceTemplate

namespace Context

/-- What a path reads, unless it is null. -/
def present? (ctx : Context) (p : Path) : Option Value :=
  (ctx.resolve? p.segments).filter fun v => !v.isNull

end Context

namespace Argument

/-- The value of an argument. -/
def resolve? (ctx : Context) : Argument → Option Value
  | literal l => some l.toValue
  | path p => ctx.present? p

end Argument

/-! ## Calls -/

namespace Definition

variable {σ : Type}

/-- The values that a function is called with; null stands for what is absent, if it is accepted. -/
def accept? (d : Definition σ) (args : List (Option Value)) : Option (List Value) :=
  args.mapM fun arg => match arg with
    | some v => some v
    | none => if d.acceptsAbsent then some .null else none

end Definition

namespace Call

variable {σ : Type}

/-- The value of a call. A null that may be an absent argument passed through is absent. -/
def evaluate (registry : Registry σ) (ctx : Context) (c : Call) : Render σ (Option Value) :=
  match registry.get? c.name with
  | none => pure none
  | some d =>
    if d.minArguments.gtNat c.arguments.length then pure none
    else
      let args := c.arguments.map (Argument.resolve? ctx)
      match d.accept? args with
      | none => pure none
      | some values => do
        let result ← d.invoke values
        return result.filter fun v => !(v.isNull && args.any Option.isNone)

end Call

/-! ## Comparisons -/

namespace Value

/-- The order of two texts by their code units. -/
def textOrder (a b : Text) : Ordering :=
  if a < b then .lt else if b < a then .gt else .eq

/-- The order of two numbers or two texts; other pairs have none. -/
def order? : Value → Value → Option Ordering
  | number a, number b => Number.difference a b
  | text a, text b => some (textOrder a b)
  | _, _ => none

end Value

namespace Comparison

/-- Whether a comparison by order holds for an order. -/
def admits : Comparison → Ordering → Bool
  | greater, o => o = .gt
  | less, o => o = .lt
  | atLeast, o => o != .lt
  | atMost, o => o != .gt
  | equal, o => o = .eq
  | unequal, o => o != .eq

/-- Whether a comparison of two values holds. -/
def holdsFor (c : Comparison) (a b : Value) : Bool :=
  match c with
  | equal => a.same b
  | unequal => !a.same b
  | c => match a.order? b with
    | some o => c.admits o
    | none => false

/-- Whether a comparison of two sides holds. -/
def holds (c : Comparison) : Option Value → Option Value → Bool
  | some a, some b => c.holdsFor a b
  | _, _ => c = unequal

end Comparison

/-! ## Expressions -/

namespace Operand

variable {σ : Type}

/-- The value of an operand. -/
def evaluate (registry : Registry σ) (ctx : Context) : Operand → Render σ (Option Value)
  | simple a => pure (a.resolve? ctx)
  | call c => c.evaluate registry ctx

end Operand

namespace Expression

variable {σ : Type}

/-- The value of an expression. -/
def evaluate (registry : Registry σ) (ctx : Context) : Expression → Render σ (Option Value)
  | operand o => o.evaluate registry ctx
  | compare c left right => do
    let a ← left.evaluate registry ctx
    let b ← right.evaluate registry ctx
    return some (.bool (c.holds a b))

/-- Whether a test holds: it can be read, it resolves, and its value is true. -/
def test (registry : Registry σ) (ctx : Context) : Option Expression → Render σ Bool
  | none => pure false
  | some e => do
    let result ← e.evaluate registry ctx
    return (result.map Value.isTruthy).getD false

end Expression

end BraceTemplate
