import BraceTemplate.Function
import BraceTemplate.Data.Normal

/-!
# Render computations

A computation reads and changes the state of the host through the functions it calls, and leaves
behind the events of these calls. It ends in an answer, or in a fault that nothing inside it catches.
-/

namespace BraceTemplate

/-- What a call leaves behind. -/
inductive Event where
  /-- A function was called with these values. -/
  | invoked (name : Text) (arguments : List Value)
  /-- The call that was just made failed. -/
  | failed (name : Text) (message : Text)
deriving Repr

/-- What a computation ends in. -/
structure Ran (σ α : Type) where
  answer : Except Fault α
  host : σ
  events : List Event

/-- A computation over host states. -/
def Render (σ α : Type) := σ → Ran σ α

namespace Render

variable {σ α β : Type}

/-- The computation that answers at once. -/
protected def pure (a : α) : Render σ α :=
  fun host => ⟨.ok a, host, []⟩

/-- One computation and then, if it answers, the next; the events of the first come first. -/
protected def bind (m : Render σ α) (f : α → Render σ β) : Render σ β := fun host =>
  let first := m host
  match first.answer with
  | .error fault => ⟨.error fault, first.host, first.events⟩
  | .ok a =>
    let second := f a first.host
    ⟨second.answer, second.host, first.events ++ second.events⟩

instance : Monad (Render σ) where
  pure := Render.pure
  bind := Render.bind

instance : LawfulMonad (Render σ) := LawfulMonad.mk' (Render σ)
  (by
    intro α m
    funext host
    simp only [Functor.map, Render.bind]
    cases h : (m host).answer <;> simp [Render.pure, Function.comp, ← h])
  (by
    intro α β a f
    funext host
    simp [Bind.bind, Pure.pure, Render.bind, Render.pure])
  (by
    intro α β γ m f g
    funext host
    simp only [Bind.bind, Render.bind]
    cases (m host).answer with
    | error e => rfl
    | ok a =>
      simp only
      cases (f a (m host).host).answer <;> simp)

/-- A fault of the first computation is that of the whole. -/
theorem bind_of_error {m : Render σ α} {next : α → Render σ β} {host : σ} {fault : Fault}
    (h : (m host).answer = .error fault) : (m >>= next) host = ⟨.error fault, (m host).host, (m host).events⟩ := by
  show Render.bind m next host = _
  simp only [Render.bind, h]

/-- An answer of the first computation is handed to the next. -/
theorem bind_of_ok {m : Render σ α} {next : α → Render σ β} {host : σ} {a : α}
    (h : (m host).answer = .ok a) : (m >>= next) host =
      ⟨(next a (m host).host).answer, (next a (m host).host).host,
        (m host).events ++ (next a (m host).host).events⟩ := by
  show Render.bind m next host = _
  simp only [Render.bind, h]

/-- The texts that a computation gives for the items of a list, one after another. -/
def concat (f : α → Render σ Text) : List α → Render σ Text
  | [] => pure []
  | a :: rest => do
    let first ← f a
    let others ← concat f rest
    return first ++ others

end Render

namespace Definition

variable {σ : Type}

/-- Calls the function. A result is converted to a value; if the call or the conversion fails, there
is none. Whatever was thrown has to have a text, or the computation ends in a fault. -/
def invoke (d : Definition σ) (args : List Value) : Render σ (Option Value) := fun host =>
  let (outcome, host) := d.callback.run #[] (args.map .value) host
  let call := Event.invoked d.name args
  match outcome with
  | .returned data => match data.toValue with
    | .ok v => ⟨.ok (some v), host, [call]⟩
    | .error fault => ⟨.ok none, host, [call, .failed d.name fault.message]⟩
  | .failed fault => ⟨.ok none, host, [call, .failed d.name fault.message]⟩
  | .threw data => match data.plainText with
    | .ok message => ⟨.ok none, host, [call, .failed d.name message]⟩
    | .error fault => ⟨.error fault, host, [call]⟩

end Definition

end BraceTemplate
