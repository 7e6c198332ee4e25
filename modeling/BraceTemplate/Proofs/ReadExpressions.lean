import BraceTemplate.Template.Names
import BraceTemplate.Proofs.Callable
import BraceTemplate.Proofs.Outline

/-!
# The expressions of a template

References, calls, tests and sources of loops are the expressions of a template. All of them were read from some
text, so what the reader promises about an expression holds of every expression at any depth.

* `Node.allPaths_eq`, `Node.allCalls_eq` — the paths and the calls of a template are those of its expressions;
* `Template.isRead_of_mem_expressions` — every expression of the template of a source was read;
* `Template.isFree_of_mem_calls` — so every call in it has a free name.
-/

namespace BraceTemplate

namespace Opener

/-- The expression of an opener, if it could be read. -/
def expressions : Opener → List Expression
  | cond test => test.toList
  | loop _ iterable => iterable.toList

/-- The calls of an opener. -/
def calls : Opener → List Call
  | cond test => (test.map Expression.calls).getD []
  | loop _ iterable => (iterable.map Expression.calls).getD []

theorem paths_eq (o : Opener) : o.paths = o.expressions.flatMap Expression.paths := by
  rcases o with (_ | test) | ⟨binding, _ | iterable⟩
  · rfl
  · exact (List.append_nil _).symm
  · rfl
  · exact (List.append_nil _).symm

theorem calls_eq (o : Opener) : o.calls = o.expressions.flatMap Expression.calls := by
  rcases o with (_ | test) | ⟨binding, _ | iterable⟩
  · rfl
  · exact (List.append_nil _).symm
  · rfl
  · exact (List.append_nil _).symm

end Opener

namespace Node

mutual

/-- The expressions of a node. -/
def expressions : Node → List Expression
  | text _ => []
  | reference p _ => [.operand (.simple (.path p))]
  | call c _ => [.operand (.call c)]
  | block opener body _ => opener.expressions ++ allExpressions body

/-- The expressions of nodes, in document order. -/
def allExpressions : List Node → List Expression
  | [] => []
  | n :: rest => expressions n ++ allExpressions rest

end

mutual

/-- The calls that are written in a node. -/
def calls : Node → List Call
  | text _ => []
  | reference .. => []
  | call c _ => [c]
  | block opener body _ => opener.calls ++ allCalls body

/-- The calls that are written in nodes, in document order. -/
def allCalls : List Node → List Call
  | [] => []
  | n :: rest => calls n ++ allCalls rest

end

/-- Induction over a list of nodes and the bodies of its blocks. -/
@[elab_as_elim]
theorem list_induction {motive : List Node → Prop} (nil : motive [])
    (text : ∀ value rest, motive rest → motive (.text value :: rest))
    (reference : ∀ p source rest, motive rest → motive (.reference p source :: rest))
    (call : ∀ call source rest, motive rest → motive (.call call source :: rest))
    (block : ∀ o body closed rest, motive body → motive rest →
      motive (.block o body closed :: rest)) : ∀ nodes, motive nodes
  | [] => nil
  | .text value :: rest => text value rest (list_induction nil text reference call block rest)
  | .reference p source :: rest =>
    reference p source rest (list_induction nil text reference call block rest)
  | .call c source :: rest => call c source rest (list_induction nil text reference call block rest)
  | .block o body closed :: rest =>
    block o body closed rest (list_induction nil text reference call block body)
      (list_induction nil text reference call block rest)

theorem allPaths_eq (nodes : List Node) : allPaths nodes = (allExpressions nodes).flatMap Expression.paths := by
  induction nodes using list_induction with
  | nil => rfl
  | text value rest ih => simp [allPaths, paths, allExpressions, expressions, ih]
  | reference p source rest ih =>
    simp [allPaths, paths, allExpressions, expressions, ih, Expression.paths, Operand.paths, Argument.paths]
  | call c source rest ih =>
    simp [allPaths, paths, allExpressions, expressions, ih, Expression.paths, Operand.paths]
  | block o body closed rest ihbody ihrest =>
    simp [allPaths, paths, allExpressions, expressions, ihbody, ihrest, o.paths_eq]

theorem allCalls_eq (nodes : List Node) : allCalls nodes = (allExpressions nodes).flatMap Expression.calls := by
  induction nodes using list_induction with
  | nil => rfl
  | text value rest ih => simp [allCalls, calls, allExpressions, expressions, ih]
  | reference p source rest ih =>
    simp [allCalls, calls, allExpressions, expressions, ih, Expression.calls, Operand.calls]
  | call c source rest ih =>
    simp [allCalls, calls, allExpressions, expressions, ih, Expression.calls, Operand.calls]
  | block o body closed rest ihbody ihrest =>
    simp [allCalls, calls, allExpressions, expressions, ihbody, ihrest, o.calls_eq]

end Node

/-! ## Where expressions come from -/

/-- An expression that some text is read as. -/
def Expression.IsRead (e : Expression) : Prop :=
  ∃ t, ofText? t = some e

namespace Token

/-- A tag that is no block shows an expression that was read, or none. -/
theorem isRead_of_node (t : Token) : ∀ e ∈ t.node.expressions, e.IsRead := by
  cases t with
  | text value q => simp [node, Node.expressions]
  | tag body q =>
    rcases hword : Tag.keyword? body with _ | ⟨kind⟩ | kind
    · rcases Tag.ofBody_of_none hword with ⟨path, hread, htag⟩ | ⟨c, hread, htag⟩ | htag
      · simpa [node, htag, Node.expressions] using ⟨_, hread⟩
      · simpa [node, htag, Node.expressions] using ⟨_, hread⟩
      · simp [node, htag, Node.expressions]
    · cases kind with
      | cond => simp [node, Tag.ofBody_of_opens_cond hword, Node.expressions]
      | loop =>
        rcases Tag.ofBody_of_opens_loop hword with ⟨binding, source, _, htag⟩
        simp [node, htag, Node.expressions]
    · simp [node, Tag.ofBody_of_closes hword, Node.expressions]

/-- The test or the source of an opener was read, unless there is none. -/
theorem isRead_of_opener? {t : Token} {o : Opener} (h : t.opener? = some o) :
    ∀ e ∈ o.expressions, e.IsRead := by
  cases t with
  | text value q => simp [opener?] at h
  | tag body q =>
    have hword := keyword?_eq_opens_iff.2 ⟨o, h, rfl⟩
    simp only [keyword?] at hword
    cases hkind : o.kind with
    | cond =>
      rw [hkind] at hword
      simp only [opener?, Tag.ofBody_of_opens_cond hword, Option.some.injEq] at h
      intro e he
      rw [← h] at he
      rcases Option.bind_eq_some_iff.1 (Option.mem_toList.1 he) with ⟨test, _, hread⟩
      exact ⟨test, hread⟩
    | loop =>
      rw [hkind] at hword
      rcases Tag.ofBody_of_opens_loop hword with ⟨binding, source, _, htag⟩
      simp only [opener?, htag, Option.some.injEq] at h
      intro e he
      rw [← h] at he
      exact ⟨source, Option.mem_toList.1 he⟩

end Token

theorem Outline.isRead_of_nodes (outlines : List Outline) :
    ∀ inner, AllFit inner outlines → ∀ e ∈ Node.allExpressions (nodes outlines), e.IsRead := by
  -- for every block around them, as the body of a block lies within another one than the block does
  induction outlines using list_induction with
  | nil => simp [nodes, Node.allExpressions]
  | leaf t rest ih =>
    intro inner hfit e he
    rw [nodes, node, Node.allExpressions] at he
    rcases List.mem_append.1 he with he | he
    · exact Token.isRead_of_node t e he
    · exact ih inner hfit.2.1 e he
  | block o opening body closing rest ihbody ihrest =>
    intro inner hfit e he
    rcases hfit with ⟨⟨hopening, hbody, _⟩, hrest, _⟩
    rw [nodes, node, Node.allExpressions, Node.expressions] at he
    rcases List.mem_append.1 he with he | he
    · rcases List.mem_append.1 he with he | he
      · exact Token.isRead_of_opener? hopening e he
      · exact ihbody _ hbody e he
    · exact ihrest inner hrest e he

namespace Template

/-- Every expression in the template of a source was read from some text. -/
theorem isRead_of_mem_expressions {source : Text} {e : Expression}
    (h : e ∈ Node.allExpressions (ofSource source)) : e.IsRead := by
  rcases Outline.exists_outline (Tokens.ofSource source).tokens with ⟨outlines, htokens, hfit⟩
  rw [ofSource, ← htokens, Outline.ofTokens_allTokens hfit] at h
  exact Outline.isRead_of_nodes outlines none hfit e h

/-- Every call in the template of a source has a free name. -/
theorem isFree_of_mem_calls {source : Text} {c : Call} (h : c ∈ Node.allCalls (ofSource source)) :
    Name.IsFree c.name := by
  rw [Node.allCalls_eq] at h
  rcases List.mem_flatMap.1 h with ⟨e, he, hc⟩
  rcases isRead_of_mem_expressions he with ⟨t, hread⟩
  exact Expression.isFree_of_mem_calls (Expression.ofText?_eq_some_iff.1 hread) hc

end Template

end BraceTemplate
