import BraceTemplate.Template

/-!
# Outlines

An outline nests the tokens of a source the way their block tags do: a block holds the token that opens
it, the outlines of its body and, if there is one, the token that closes it. Outlines say what the
builder of templates does without its stack:

* `exists_outline` — every list of tokens has an outline that fits;
* `ofTokens_allTokens` — the template of the tokens of an outline that fits is the tree of the outline;
* `outline_unique` — the tokens and the tree leave no choice of the outline.
-/

namespace BraceTemplate

/-! ## What a tag means, by its block word -/

namespace Tag

variable {body : Text}

theorem ofBody_of_closes {kind : BlockKind} (h : keyword? body = some (.closes kind)) :
    ofBody body = .close kind := by
  simp [ofBody, h]

theorem ofBody_of_opens_cond (h : keyword? body = some (.opens .cond)) :
    ofBody body = .cond ((condition? body.trim).bind Expression.ofText?) := by
  simp [ofBody, h]

/-- A tag with the word of a loop has a binding and a source, even if no expression is in it. -/
theorem ofBody_of_opens_loop (h : keyword? body = some (.opens .loop)) :
    ∃ binding source, loop? body.trim = some (binding, source) ∧
      ofBody body = .loop binding (Expression.ofText? source) := by
  rcases hloop : loop? body.trim with _ | ⟨binding, source⟩
  · -- without a binding the word would not be that of a loop
    simp only [keyword?, hloop] at h
    split at h
    · simp at h
    · split at h
      · simp at h
      · split at h <;> simp at h
  · exact ⟨binding, source, rfl, by simp [ofBody, h, hloop]⟩

/-- A tag without a block word is a path, a call or plain. -/
theorem ofBody_of_none (h : keyword? body = none) :
    (∃ p, Expression.ofText? body.trim = some (.operand (.simple (.path p))) ∧
      ofBody body = .path p) ∨
    (∃ c, Expression.ofText? body.trim = some (.operand (.call c)) ∧ ofBody body = .call c) ∨
    ofBody body = .plain := by
  simp only [ofBody, h]
  split
  · rename_i p hread
    exact Or.inl ⟨p, hread, rfl⟩
  · rename_i c hread
    exact Or.inr (Or.inl ⟨c, hread, rfl⟩)
  · exact Or.inr (Or.inr rfl)

end Tag

/-! ## Tokens as the builder sees them -/

namespace Token

/-- The block word of a token; plain text has none. -/
def keyword? : Token → Option Keyword
  | text .. => none
  | tag body _ => Tag.keyword? body

/-- The block that a token opens. -/
def opener? : Token → Option Opener
  | text .. => none
  | tag body _ =>
    match Tag.ofBody body with
    | .cond test => some (.cond test)
    | .loop binding iterable => some (.loop binding iterable)
    | _ => none

/-- The node of a token that neither opens nor closes a block. -/
def node : Token → Node
  | text value _ => .text value
  | tag body _ =>
    match Tag.ofBody body with
    | .path p => .reference p (tagSource body)
    | .call c => .call c (tagSource body)
    | _ => .text (tagSource body)

/-- The block word and the meaning of a token agree: it opens a block of the kind that its word
says, whether or not its expression can be read. -/
theorem keyword?_eq_opens_iff {t : Token} {kind : BlockKind} :
    t.keyword? = some (.opens kind) ↔ ∃ o, t.opener? = some o ∧ o.kind = kind := by
  cases t with
  | text value p => simp [keyword?, opener?]
  | tag body p =>
    rcases hword : Tag.keyword? body with _ | (_ | _) | k
    · rcases Tag.ofBody_of_none hword with ⟨_, _, h⟩ | ⟨_, _, h⟩ | h <;>
        simp [keyword?, opener?, hword, h]
    · simp [keyword?, opener?, hword, Tag.ofBody_of_opens_cond hword, Opener.kind]
    · obtain ⟨binding, source, _, h⟩ := Tag.ofBody_of_opens_loop hword
      simp [keyword?, opener?, hword, h, Opener.kind]
    · simp [keyword?, opener?, hword, Tag.ofBody_of_closes hword]

/-- A closing tag that closes nothing is its own text. -/
theorem node_of_closes {t : Token} {kind : BlockKind} (h : t.keyword? = some (.closes kind)) :
    t.node = .text t.lexeme := by
  cases t with
  | text value p => rfl
  | tag body p => simp [node, lexeme, Tag.ofBody_of_closes h]

theorem node_ne_block (t : Token) (o : Opener) (body : List Node) (closed : Bool) :
    t.node ≠ .block o body closed := by
  cases t with
  | text value p => simp [node]
  | tag source p =>
    simp only [node]
    split <;> simp

end Token

namespace Node

mutual

/-- The blocks of a node that are not closed, the outer ones before those inside them. -/
def unclosed : Node → List Opener
  | block o body closed => (if closed then [] else [o]) ++ allUnclosed body
  | _ => []

/-- The blocks of nodes that are not closed. -/
def allUnclosed : List Node → List Opener
  | [] => []
  | n :: rest => unclosed n ++ allUnclosed rest

end

end Node

namespace Template.Partial

/-- The kind of the innermost open block. -/
def inner? (b : Partial) : Option BlockKind :=
  b.blocks.head?.map fun block => block.opener.kind

/-- The template if no token follows. -/
def result (b : Partial) : Template :=
  finish b.nodes b.blocks

theorem step_opener {t : Token} {o : Opener} (b : Partial) (h : t.opener? = some o) :
    b.step t = b.enter o := by
  cases t with
  | text value p => simp [Token.opener?] at h
  | tag body p =>
    simp only [Token.opener?] at h
    split at h <;> simp_all [step]

theorem step_closes {t : Token} {kind : BlockKind} (b : Partial)
    (h : t.keyword? = some (.closes kind)) : b.step t = b.leave kind t.lexeme := by
  cases t with
  | text value p => simp [Token.keyword?] at h
  | tag body p => simp [step, Token.lexeme, Tag.ofBody_of_closes h]

/-- A token that opens nothing and cannot close the innermost block becomes a node by itself. -/
theorem step_leaf {t : Token} (b : Partial) (hopen : t.opener? = none)
    (hclose : ∀ kind, t.keyword? = some (.closes kind) → b.inner? ≠ some kind) :
    b.step t = b.add t.node := by
  rcases hword : t.keyword? with _ | k | k
  · cases t with
    | text value p => rfl
    | tag body p =>
      rcases Tag.ofBody_of_none hword with ⟨_, _, h⟩ | ⟨_, _, h⟩ | h <;>
        simp [step, Token.node, h]
  · obtain ⟨o, ho, _⟩ := Token.keyword?_eq_opens_iff.1 hword
    simp [hopen] at ho
  · rw [step_closes b hword, Token.node_of_closes hword]
    have hne := hclose k hword
    unfold leave
    split
    · rename_i block outer hblocks
      simp only [inner?, hblocks, List.head?_cons, Option.map_some, ne_eq, Option.some.injEq] at hne
      rw [if_neg hne]
    · rfl

end Template.Partial

/-! ## Outlines -/

/-- A token by itself, or a block with the tokens that open and close it. -/
inductive Outline where
  | leaf (token : Token)
  | block (opener : Opener) (opening : Token) (body : List Outline) (closing : Option Token)

namespace Outline

/-- Induction over a list of outlines and the bodies of its blocks. -/
@[elab_as_elim]
theorem list_induction {motive : List Outline → Prop} (nil : motive [])
    (leaf : ∀ t rest, motive rest → motive (.leaf t :: rest))
    (block : ∀ o opening body closing rest, motive body → motive rest →
      motive (.block o opening body closing :: rest)) :
    ∀ outlines, motive outlines
  | [] => nil
  | .leaf t :: rest => leaf t rest (list_induction nil leaf block rest)
  | .block o opening body closing :: rest =>
    block o opening body closing rest (list_induction nil leaf block body)
      (list_induction nil leaf block rest)

mutual

/-- The tokens of an outline, in source order. -/
def tokens : Outline → List Token
  | leaf t => [t]
  | block _ opening body closing => opening :: (allTokens body ++ closing.toList)

/-- The tokens of outlines. -/
def allTokens : List Outline → List Token
  | [] => []
  | outline :: rest => tokens outline ++ allTokens rest

end

mutual

/-- The node of an outline. -/
def node : Outline → Node
  | leaf t => t.node
  | block o _ body closing => .block o (nodes body) closing.isSome

/-- The nodes of outlines. -/
def nodes : List Outline → List Node
  | [] => []
  | outline :: rest => node outline :: nodes rest

end

mutual

/-- The blocks of an outline without a closing tag, the outer ones before those inside them. -/
def unclosed : Outline → List (Opener × Token)
  | leaf _ => []
  | block o opening body closing =>
    (if closing.isSome then [] else [(o, opening)]) ++ allUnclosed body

/-- The blocks of outlines without a closing tag. -/
def allUnclosed : List Outline → List (Opener × Token)
  | [] => []
  | outline :: rest => unclosed outline ++ allUnclosed rest

end

mutual

/-- Whether an outline may stand directly in a block of a kind, or in none. A leaf opens nothing and does
not close the block around it; a block that is closed has no open block in it. -/
def Fits (inner : Option BlockKind) : Outline → Prop
  | leaf t => t.opener? = none ∧ ∀ kind, t.keyword? = some (.closes kind) → inner ≠ some kind
  | block o opening body closing =>
    opening.opener? = some o ∧ AllFit (some o.kind) body ∧
      ∀ t, closing = some t → t.keyword? = some (.closes o.kind) ∧ allUnclosed body = []

/-- Whether outlines may stand one after another: nothing follows an open block. -/
def AllFit (inner : Option BlockKind) : List Outline → Prop
  | [] => True
  | outline :: rest => Fits inner outline ∧ AllFit inner rest ∧ (unclosed outline = [] ∨ rest = [])

end

/-! ### The functions of outlines over `++` -/

theorem allTokens_append (xs ys : List Outline) : allTokens (xs ++ ys) = allTokens xs ++ allTokens ys := by
  induction xs with
  | nil => simp [allTokens]
  | cons x xs ih => simp [allTokens, ih]

theorem unclosed_node_token (t : Token) : Node.unclosed t.node = [] := by
  cases t with
  | text value p => simp [Token.node, Node.unclosed]
  | tag body p =>
    simp only [Token.node]
    split <;> simp [Node.unclosed]

/-- The open blocks of the tree are those of the outlines. -/
theorem allUnclosed_nodes (outlines : List Outline) :
    Node.allUnclosed (nodes outlines) = (allUnclosed outlines).map Prod.fst := by
  induction outlines using list_induction with
  | nil => simp [nodes, Node.allUnclosed, allUnclosed]
  | leaf t rest ih =>
    simp [nodes, node, Node.allUnclosed, allUnclosed, unclosed, unclosed_node_token, ih]
  | block o opening body closing rest ihbody ihrest =>
    rcases closing with _ | t <;>
      simp [nodes, node, Node.allUnclosed, Node.unclosed, allUnclosed, unclosed, ihbody, ihrest]

/-! ### Building the template of an outline -/

open Template

/-- Outlines without open blocks add their nodes and leave the open blocks as they are. -/
theorem foldl_step_of_closed (outlines : List Outline) :
    ∀ (b : Partial), AllFit b.inner? outlines → allUnclosed outlines = [] →
      (allTokens outlines).foldl Partial.step b =
        { b with nodes := (nodes outlines).reverse ++ b.nodes } := by
  induction outlines using list_induction with
  | nil => intro b _ _; simp [allTokens, nodes]
  | leaf t rest ih =>
    intro b hfit hclosed
    obtain ⟨⟨hopen, hclose⟩, hrest, _⟩ := hfit
    simp only [allUnclosed, unclosed, List.nil_append] at hclosed
    have hstep : b.step t = b.add t.node := Partial.step_leaf b hopen hclose
    simp only [allTokens, tokens, List.singleton_append, List.foldl_cons, hstep]
    rw [ih (b.add t.node) hrest hclosed]
    simp [nodes, node, Partial.add]
  | block o opening body closing rest ihbody ihrest =>
    intro b hfit hclosed
    obtain ⟨⟨hopening, hbody, hclosing⟩, hrest, _⟩ := hfit
    rcases closing with _ | t
    · simp [allUnclosed, unclosed] at hclosed
    · obtain ⟨hword, hbodyClosed⟩ := hclosing t rfl
      simp only [allUnclosed, unclosed, Option.isSome_some, if_true, List.nil_append,
        List.append_eq_nil_iff] at hclosed
      have hinside := ihbody (b.enter o) hbody hbodyClosed
      -- the closing tag meets the block that the opening tag left on the stack
      have hleave : ({ b.enter o with nodes := (nodes body).reverse ++ (b.enter o).nodes } : Partial).step t
          = b.add (.block o (nodes body) true) := by
        rw [Partial.step_closes _ hword]
        simp [Partial.leave, Partial.enter, Partial.add]
      simp only [allTokens, tokens, Option.toList_some, List.foldl_cons, List.foldl_append,
        Partial.step_opener b hopening, hinside, hleave, List.foldl_nil, List.cons_append]
      rw [ihrest (b.add (.block o (nodes body) true)) hrest hclosed.2]
      simp [nodes, node, Partial.add]

/-- Outlines that end the tokens add their nodes, whether or not their last blocks are open. -/
theorem result_foldl_step (outlines : List Outline) :
    ∀ (b : Partial), AllFit b.inner? outlines →
      ((allTokens outlines).foldl Partial.step b).result =
        Partial.finish ((nodes outlines).reverse ++ b.nodes) b.blocks := by
  induction outlines using list_induction with
  | nil => intro b _; simp [allTokens, nodes, Partial.result]
  | leaf t rest ih =>
    intro b hfit
    obtain ⟨⟨hopen, hclose⟩, hrest, _⟩ := hfit
    have hstep : b.step t = b.add t.node := Partial.step_leaf b hopen hclose
    simp only [allTokens, tokens, List.singleton_append, List.foldl_cons, hstep]
    rw [ih (b.add t.node) hrest]
    simp [nodes, node, Partial.add]
  | block o opening body closing rest ihbody ihrest =>
    intro b hfit
    rcases closing with _ | t
    · -- nothing follows an open block
      obtain ⟨⟨hopening, hbody, _⟩, _, hend⟩ := hfit
      have hnil : rest = [] := by simpa [unclosed] using hend
      subst hnil
      have hinside := ihbody (b.enter o) hbody
      simp only [allTokens, tokens, Option.toList_none, List.append_nil, List.foldl_cons,
        Partial.step_opener b hopening, hinside]
      simp [nodes, node, Partial.enter, Partial.finish]
    · obtain ⟨hblock, hrest, _⟩ := hfit
      have hclosed : allUnclosed [block o opening body (some t)] = [] := by
        simp [allUnclosed, unclosed, (hblock.2.2 t rfl).2]
      have hone := foldl_step_of_closed [block o opening body (some t)] b
        ⟨hblock, trivial, Or.inr rfl⟩ hclosed
      have hsplit : allTokens (block o opening body (some t) :: rest) =
          allTokens [block o opening body (some t)] ++ allTokens rest :=
        allTokens_append [_] rest
      have hlater := ihrest
        { b with nodes := (nodes [block o opening body (some t)]).reverse ++ b.nodes } hrest
      rw [hsplit, List.foldl_append, hone, hlater]
      simp [nodes]

/-- The template of the tokens of an outline is the tree of the outline. -/
theorem ofTokens_allTokens {outlines : List Outline} (hfit : AllFit none outlines) :
    Template.ofTokens (allTokens outlines) = nodes outlines := by
  have h := result_foldl_step outlines .empty hfit
  simpa [Template.ofTokens, Partial.result, Partial.finish, Partial.empty] using h

/-! ### Every list of tokens has an outline -/

/-- How tokens begin inside a block of a kind, or outside all blocks: an outline takes in all of them,
or all up to the token that closes the block. -/
inductive Begins (inner : Option BlockKind) : List Token → Prop where
  | whole (outlines : List Outline) (hfit : AllFit inner outlines) : Begins inner (allTokens outlines)
  | upTo (outlines : List Outline) (t : Token) (rest : List Token) (kind : BlockKind)
      (hfit : AllFit inner outlines) (hclosed : allUnclosed outlines = [])
      (hinner : inner = some kind) (hword : t.keyword? = some (.closes kind)) :
      Begins inner (allTokens outlines ++ t :: rest)

/-- An outline without open blocks may come first. -/
theorem Begins.cons {inner : Option BlockKind} {outline : Outline} {ts : List Token}
    (hfit : Fits inner outline) (hclosed : unclosed outline = []) (h : Begins inner ts) :
    Begins inner (tokens outline ++ ts) := by
  cases h with
  | whole outlines hall =>
    exact .whole (outline :: outlines) ⟨hfit, hall, Or.inl hclosed⟩
  | upTo outlines t rest kind hall hnone hinner hword =>
    rw [← List.append_assoc]
    exact .upTo (outline :: outlines) t rest kind ⟨hfit, hall, Or.inl hclosed⟩
      (by simp [allUnclosed, hclosed, hnone]) hinner hword

/-- Tokens begin in one of the two ways, wherever they stand. -/
theorem begins (inner : Option BlockKind) (ts : List Token) : Begins inner ts := by
  induction hlength : ts.length using Nat.strongRecOn generalizing inner ts with
  | ind n ih =>
    rcases ts with _ | ⟨t, ts⟩
    · exact .whole [] trivial
    · simp only [List.length_cons] at hlength
      by_cases hcloses : ∃ kind, inner = some kind ∧ t.keyword? = some (.closes kind)
      · -- the block around ends here, so the outlines in it are complete
        obtain ⟨kind, hinner, hword⟩ := hcloses
        exact .upTo [] t ts kind trivial rfl hinner hword
      · rcases hopener : t.opener? with _ | o
        · have hleaf : Fits inner (leaf t) :=
            ⟨hopener, fun kind hword hinner => hcloses ⟨kind, hinner, hword⟩⟩
          exact .cons hleaf rfl (ih ts.length (by omega) inner ts rfl)
        · -- the body of the block, and then what follows its closing tag
          have hbody := ih ts.length (by omega) (some o.kind) ts rfl
          generalize hts : ts = body at hbody
          cases hbody with
          | whole outlines hfit =>
            have hblock : Fits inner (block o t outlines none) :=
              ⟨hopener, hfit, fun c hc => by simp at hc⟩
            have htokens : t :: allTokens outlines = allTokens [block o t outlines none] := by
              simp [allTokens, tokens]
            rw [htokens]
            exact .whole _ ⟨hblock, trivial, Or.inr rfl⟩
          | upTo outlines c rest kind hfit hnone hinner hword =>
            simp only [Option.some.injEq] at hinner
            subst hinner
            have hblock : Fits inner (block o t outlines (some c)) := by
              refine ⟨hopener, hfit, fun c' hc' => ?_⟩
              simp only [Option.some.injEq] at hc'
              exact ⟨hc' ▸ hword, hnone⟩
            have htokens : t :: (allTokens outlines ++ c :: rest) =
                tokens (block o t outlines (some c)) ++ rest := by
              simp [tokens]
            rw [htokens]
            refine .cons hblock (by simp [unclosed, hnone]) (ih rest.length ?_ inner rest rfl)
            rw [hts] at hlength
            simp only [List.length_append, List.length_cons] at hlength
            omega

/-- Every list of tokens has an outline that fits. -/
theorem exists_outline (ts : List Token) :
    ∃ outlines, allTokens outlines = ts ∧ AllFit none outlines := by
  have h := begins none ts
  cases h with
  | whole outlines hfit => exact ⟨outlines, rfl, hfit⟩
  | upTo outlines t rest kind hfit hclosed hinner hword => simp at hinner

/-- The tokens and the tree leave no choice of the outline. -/
theorem outline_unique (outlines : List Outline) :
    ∀ (others : List Outline) (after after' : List Token),
      allTokens outlines ++ after = allTokens others ++ after' → nodes outlines = nodes others →
        outlines = others ∧ after = after' := by
  induction outlines using list_induction with
  | nil =>
    intro others after after' htokens hnodes
    rcases others with _ | ⟨other, others⟩
    · exact ⟨rfl, by simpa [allTokens] using htokens⟩
    · simp [nodes] at hnodes
  | leaf t rest ih =>
    intro others after after' htokens hnodes
    rcases others with _ | ⟨t' | ⟨o', opening', body', closing'⟩, others⟩
    · simp [nodes] at hnodes
    · simp only [allTokens, tokens, List.cons_append, List.cons.injEq] at htokens
      simp only [nodes, List.cons.injEq] at hnodes
      obtain ⟨hrest, hafter⟩ := ih others after after' htokens.2 hnodes.2
      exact ⟨by rw [htokens.1, hrest], hafter⟩
    · simp only [nodes, node, List.cons.injEq] at hnodes
      exact absurd hnodes.1 (Token.node_ne_block t _ _ _)
  | block o opening body closing rest ihbody ihrest =>
    intro others after after' htokens hnodes
    rcases others with _ | ⟨t' | ⟨o', opening', body', closing'⟩, others⟩
    · simp [nodes] at hnodes
    · simp only [nodes, node, List.cons.injEq] at hnodes
      exact absurd hnodes.1.symm (Token.node_ne_block t' _ _ _)
    · simp only [nodes, node, List.cons.injEq, Node.block.injEq] at hnodes
      obtain ⟨⟨ho, hbodyNodes, hclosing⟩, hrestNodes⟩ := hnodes
      simp only [allTokens, tokens, List.cons_append, List.append_assoc, List.cons.injEq] at htokens
      obtain ⟨hopening, hinside⟩ := htokens
      obtain ⟨hbody, hafterBody⟩ := ihbody body' _ _ hinside hbodyNodes
      -- both blocks are closed or both are open, so their closing tokens stand first in what is left
      have hends : closing = closing' ∧
          allTokens rest ++ after = allTokens others ++ after' := by
        rcases closing with _ | c <;> rcases closing' with _ | c'
        · exact ⟨rfl, by simpa using hafterBody⟩
        · simp at hclosing
        · simp at hclosing
        · simpa using hafterBody
      obtain ⟨hrest, hafter⟩ := ihrest others after after' hends.2 hrestNodes
      exact ⟨by rw [ho, hopening, hbody, hends.1, hrest], hafter⟩

end Outline

end BraceTemplate
