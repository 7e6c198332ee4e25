import BraceTemplate.Function
import BraceTemplate.Proofs.Grammar

/-!
# Names that can be called

A registry takes functions only under names that a template can call, and it decides this by a check of its own,
apart from the reader of expressions. Both come down to one class of names, the free ones.

* `isCallable_iff_isFree` — what the check of the registry accepts;
* `isFree_of_mem_calls` — the names of the calls that the reader finds;
* `registers_exactly_the_callable` — a name is registered exactly if the reader takes it for a call.
-/

namespace BraceTemplate

/-! ## Calls of an expression -/

/-- The call that an operand is, if it is one. -/
def Operand.calls : Operand → List Call
  | simple _ => []
  | call c => [c]

/-- The calls of an expression, from left to right. -/
def Expression.calls : Expression → List Call
  | operand o => o.calls
  | compare _ left right => left.calls ++ right.calls

/-! ## Free names -/

namespace Registry

theorem isCallable_iff_isFree {name : Text} : isCallable name ↔ Name.IsFree name := by
  simp [isCallable, Name.IsFree, Name.isReserved, and_assoc]

variable {σ : Type} (registry : Registry σ) (callback : Callback σ) (minArguments : Option Number)
  (acceptsAbsent : Bool)

/-- A registration succeeds for the free names, whatever is registered. -/
theorem registers_iff_isFree {name : Text} :
    (∃ changed, registry.register name callback minArguments acceptsAbsent = .ok changed) ↔
      Name.IsFree name := by
  rw [← isCallable_iff_isFree]
  unfold register
  constructor
  · rintro ⟨changed, h⟩
    by_contra hname
    rw [if_neg hname] at h
    cases h
  · intro hname
    rw [if_pos hname]
    exact ⟨_, rfl⟩

end Registry

/-! ## Calls that are read -/

/-- The name of a call without arguments is free. -/
theorem Call.Derives.isFree {c : Call} {ls : List Lexeme} (h : c.Derives ls) : Name.IsFree c.name := by
  cases h with
  | empty hname => exact hname
  | arguments hname _ => exact hname

theorem Operand.Derives.isFree_of_mem_calls {o : Operand} {ls : List Lexeme} (h : o.Derives ls) {c : Call}
    (hc : c ∈ o.calls) : Name.IsFree c.name := by
  cases h with
  | simple _ => simp [Operand.calls] at hc
  | call hcall =>
    rw [List.mem_singleton.1 hc]
    exact hcall.isFree

namespace Expression

/-- The names of the calls in what a text spells are free, on either side of a comparison. -/
theorem isFree_of_mem_calls {e : Expression} {t : Text} (h : e.IsSpelled t) {c : Call} (hc : c ∈ e.calls) :
    Name.IsFree c.name := by
  rcases h with ⟨ls, -, hderives⟩
  cases hderives with
  | operand ho => exact ho.isFree_of_mem_calls hc
  | compare hleft hright =>
    rcases List.mem_append.1 hc with hc | hc
    · exact hleft.isFree_of_mem_calls hc
    · exact hright.isFree_of_mem_calls hc

/-- A free name before a pair of parentheses spells a call of it: the name ends at the parenthesis. -/
theorem isSpelled_emptyCall {name : Text} (hname : Name.IsFree name) :
    IsSpelled (.operand (.call ⟨name, []⟩)) (name ++ Text.ofString "()") := by
  have hopen : Lexeme.Longest (.word name) name (Text.ofString "()") :=
    Lexeme.longest_word (.name hname.1) (by decide) _
  have hclose : Lexeme.Cut (Text.ofString "()") [.openParen, .closeParen] :=
    .lexeme (Lexeme.longest_mark rfl _) (.lexeme (Lexeme.longest_mark rfl []) .nil)
  exact ⟨_, .lexeme hopen hclose, .operand (.call (.empty hname))⟩

end Expression

/-! ## Both sides -/

section Registering

variable {σ : Type} (registry : Registry σ) (callback : Callback σ) (minArguments : Option Number)
  (acceptsAbsent : Bool)

/-- A function can be registered under a text exactly if the text with a pair of parentheses after it is read as
the call of that very name without arguments, and the name of every call that is read from any text, be it an
operand of a comparison, is one under which a function can be registered. -/
theorem registers_exactly_the_callable :
    (∀ name : Text,
      (∃ changed, registry.register name callback minArguments acceptsAbsent = .ok changed) ↔
        Expression.ofText? (name ++ Text.ofString "()") = some (.operand (.call ⟨name, []⟩))) ∧
    ∀ (t : Text) (e : Expression), Expression.ofText? t = some e → ∀ c ∈ e.calls,
      ∃ changed, registry.register c.name callback minArguments acceptsAbsent = .ok changed := by
  constructor
  · intro name
    rw [Registry.registers_iff_isFree, Expression.ofText?_eq_some_iff]
    constructor
    · exact Expression.isSpelled_emptyCall
    · intro hspelled
      exact Expression.isFree_of_mem_calls hspelled (c := ⟨name, []⟩) List.mem_cons_self
  · intro t e hread c hc
    rw [Registry.registers_iff_isFree]
    exact Expression.isFree_of_mem_calls (Expression.ofText?_eq_some_iff.1 hread) hc

end Registering

/-- The name of a call on the right of a comparison can be registered; the word that opens a conditional block
cannot, and with a pair of parentheses after it is no call. -/
theorem registers_exactly_the_callable_compared :
    let constant : Callback Unit := ⟨1, fun _ _ host => (.returned (.ofValue .null), host)⟩
    Expression.ofText? "1 < len(x)" = some (.compare .less (.simple (.literal (.number (.ofNat 1))))
      (.call ⟨"len", [.path ⟨"x", []⟩]⟩)) ∧
    (∃ changed, Registry.register .empty "len" constant none false = .ok changed) ∧
    Expression.ofText? "if()" = none ∧
    ¬ ∃ changed, Registry.register .empty "if" constant none false = .ok changed := by
  intro constant
  have hread : Expression.ofText? "1 < len(x)" = some (.compare .less (.simple (.literal (.number (.ofNat 1))))
      (.call ⟨"len", [.path ⟨"x", []⟩]⟩)) := by decide +kernel
  have hif : Expression.ofText? "if()" = none := by decide +kernel
  have hboth := registers_exactly_the_callable .empty constant none false
  refine ⟨hread, hboth.2 _ _ hread ⟨"len", [.path ⟨"x", []⟩]⟩ ?_, hif, ?_⟩
  · exact List.mem_append_right _ List.mem_cons_self
  · intro hregisters
    have hcall : Expression.ofText? "if()" = some (.operand (.call ⟨"if", []⟩)) := (hboth.1 "if").1 hregisters
    rw [hif] at hcall
    cases hcall

end BraceTemplate
