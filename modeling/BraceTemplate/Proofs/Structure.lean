import BraceTemplate.Template.Diagnostic
import BraceTemplate.Proofs.Outline
import BraceTemplate.Proofs.Scan
import Mathlib.Data.List.Perm.Basic

/-!
# The structure check and the builder agree

The check of a template and the builder of its tree each run over the tokens with a stack of their own, and
the check never reads an expression. Both are compared with the outline of the tokens:

* `ofBlocks_allTokens` — the check finds the closing tags that are leaves of the outline, and then its
  open blocks;
* `blockTags_perm` — every block tag is half of a closed block or what one diagnostic is about;
* `diagnostics_follow_tree` — both, for the diagnostics and the template of a source.
-/

namespace BraceTemplate

namespace Diagnostic

/-- The place of the brace or tag that a diagnostic is about. -/
def position : Diagnostic → Position
  | unclosedBrace p => p
  | unopenedBrace p => p
  | strayClose _ p => p
  | crossedClose _ p _ _ => p
  | unclosedBlock _ p => p

/-- What is said of a closing tag that does not close the block around it, if there is one. -/
def ofStray (around : Option (BlockKind × Position)) (kind : BlockKind) (p : Position) : Diagnostic :=
  match around with
  | none => strayClose kind p
  | some (inner, opened) => crossedClose kind p inner opened

@[simp] theorem ofStray_position (around : Option (BlockKind × Position)) (kind : BlockKind)
    (p : Position) : (ofStray around kind p).position = p := by
  rcases around with _ | ⟨inner, opened⟩ <;> rfl

end Diagnostic

namespace Token

/-- Whether a token closes a block, by its word. -/
def isCloser (t : Token) : Bool :=
  match t.keyword? with
  | some (.closes _) => true
  | _ => false

/-- Whether a token opens or closes a block, by its word. -/
def isBlockTag (t : Token) : Bool :=
  t.keyword?.isSome

theorem isCloser_iff {t : Token} : t.isCloser = true ↔ ∃ kind, t.keyword? = some (.closes kind) := by
  unfold isCloser
  split <;> simp_all

end Token

namespace Outline

mutual

/-- The diagnostics of the closing tags of an outline that close nothing, in source order; `around` is the
innermost block around the outline. -/
def strays (around : Option (BlockKind × Position)) : Outline → List Diagnostic
  | leaf t =>
    match t.keyword? with
    | some (.closes kind) => [Diagnostic.ofStray around kind t.position]
    | _ => []
  | block o opening body _ => allStrays (some (o.kind, opening.position)) body

/-- The diagnostics of the closing tags of outlines that close nothing. -/
def allStrays (around : Option (BlockKind × Position)) : List Outline → List Diagnostic
  | [] => []
  | outline :: rest => strays around outline ++ allStrays around rest

end

mutual

/-- The tags that open and close the closed blocks of an outline. -/
def pairs : Outline → List (Token × Token)
  | leaf _ => []
  | block _ opening body closing => closing.toList.map (opening, ·) ++ allPairs body

/-- The tags that open and close the closed blocks of outlines. -/
def allPairs : List Outline → List (Token × Token)
  | [] => []
  | outline :: rest => pairs outline ++ allPairs rest

end

mutual

/-- The closing tags of an outline that the template keeps as text, in source order. -/
def keptClosers : Outline → List Token
  | leaf t => if t.isCloser then [t] else []
  | block _ _ body _ => allKeptClosers body

/-- The closing tags of outlines that the template keeps as text. -/
def allKeptClosers : List Outline → List Token
  | [] => []
  | outline :: rest => keptClosers outline ++ allKeptClosers rest

end

/-- The diagnostics of the blocks without a closing tag, the outer ones first. -/
def missing (outlines : List Outline) : List Diagnostic :=
  (allUnclosed outlines).map fun (o, opening) => .unclosedBlock o.kind opening.position

/-! ## One step of the check -/

open Diagnostic

/-- What the check keeps of an open block. -/
def asOpen (block : Opener × Token) : BlockKind × Position :=
  (block.1.kind, block.2.position)

section Step

variable {t : Token} (blocks : List (BlockKind × Position)) (found : List Diagnostic)

/-- One step of the check, by the block word of the token. -/
theorem step_eq (t : Token) :
    Matching.step ⟨blocks, found⟩ t =
      match t.keyword?, blocks with
      | none, _ => ⟨blocks, found⟩
      | some (.opens kind), _ => ⟨(kind, t.position) :: blocks, found⟩
      | some (.closes kind), [] => ⟨[], .strayClose kind t.position :: found⟩
      | some (.closes kind), (inner, opened) :: outer =>
        if inner = kind then ⟨outer, found⟩
        else ⟨blocks, .crossedClose kind t.position inner opened :: found⟩ := by
  cases t with
  | text value p => rfl
  | tag body p =>
    simp only [Matching.step, Token.keyword?, Token.position]
    rcases Tag.keyword? body with _ | kind | kind <;> rcases blocks with _ | ⟨block, outer⟩ <;> rfl

theorem step_opens {o : Opener} (h : t.opener? = some o) :
    Matching.step ⟨blocks, found⟩ t = ⟨asOpen (o, t) :: blocks, found⟩ := by
  rw [step_eq, Token.keyword?_eq_opens_iff.2 ⟨o, h, rfl⟩]
  rfl

theorem step_no_word (h : t.keyword? = none) :
    Matching.step ⟨blocks, found⟩ t = ⟨blocks, found⟩ := by
  rw [step_eq, h]

theorem step_closes_inner {kind : BlockKind} {p : Position} (h : t.keyword? = some (.closes kind)) :
    Matching.step ⟨(kind, p) :: blocks, found⟩ t = ⟨blocks, found⟩ := by
  rw [step_eq, h]
  exact if_pos rfl

theorem step_stray {kind : BlockKind} (h : t.keyword? = some (.closes kind))
    (hinner : blocks.head?.map Prod.fst ≠ some kind) :
    Matching.step ⟨blocks, found⟩ t =
      ⟨blocks, ofStray blocks.head? kind t.position :: found⟩ := by
  rw [step_eq, h]
  rcases blocks with _ | ⟨⟨inner, opened⟩, outer⟩
  · rfl
  · have hne : inner ≠ kind := by simpa using hinner
    exact if_neg hne

end Step

/-! ## The check of an outline -/

/-- The check leaves the open blocks of the outlines on its stack and has found their stray closing tags.
The builder and the check see the same innermost block, so both take a leaf for a leaf. -/
theorem foldl_step_allTokens (outlines : List Outline) :
    ∀ blocks found, AllFit (blocks.head?.map Prod.fst) outlines →
      (allTokens outlines).foldl Matching.step ⟨blocks, found⟩ =
        ⟨((allUnclosed outlines).map asOpen).reverse ++ blocks,
          (allStrays blocks.head? outlines).reverse ++ found⟩ := by
  induction outlines using list_induction with
  | nil => intro blocks found _; simp [allTokens, allUnclosed, allStrays]
  | leaf t rest ih =>
    intro blocks found hfit
    obtain ⟨⟨hopen, hclose⟩, hrest, _⟩ := hfit
    -- a leaf has no word, or closes another block than the one around it
    simp only [allTokens, tokens, List.singleton_append, List.foldl_cons]
    rcases hword : t.keyword? with _ | kind | kind
    · rw [step_no_word _ _ hword, ih _ _ hrest]
      simp [allUnclosed, unclosed, allStrays, strays, hword]
    · obtain ⟨o, ho, _⟩ := Token.keyword?_eq_opens_iff.1 hword
      simp [hopen] at ho
    · rw [step_stray _ _ hword (hclose kind hword), ih _ _ hrest]
      simp [allUnclosed, unclosed, allStrays, strays, hword]
  | block o opening body closing rest ihbody ihrest =>
    intro blocks found hfit
    obtain ⟨⟨hopening, hbody, hclosing⟩, hrest, hend⟩ := hfit
    have hinside := ihbody (asOpen (o, opening) :: blocks) found hbody
    simp only [allTokens, tokens, List.cons_append, List.foldl_cons, List.foldl_append,
      step_opens _ _ hopening, hinside]
    rcases closing with _ | t
    · -- nothing follows an open block
      have hnil : rest = [] := by simpa [unclosed] using hend
      subst hnil
      simp [allTokens, allUnclosed, unclosed, allStrays, strays, asOpen]
    · obtain ⟨hword, hnone⟩ := hclosing t rfl
      simp only [hnone, List.map_nil, List.reverse_nil, List.nil_append, Option.toList_some,
        List.foldl_cons, List.foldl_nil]
      rw [asOpen, step_closes_inner _ _ hword, ihrest _ _ hrest]
      simp [allUnclosed, unclosed, hnone, allStrays, strays]

/-- The check finds the stray closing tags of an outline and then its open blocks. -/
theorem ofBlocks_allTokens {outlines : List Outline} (hfit : AllFit none outlines) :
    ofBlocks (allTokens outlines) = allStrays none outlines ++ missing outlines := by
  have h := foldl_step_allTokens outlines [] [] hfit
  rw [ofBlocks, h]
  simp [missing, asOpen, Function.comp_def]

/-! ## Every block tag once -/

/-- The positions of the tags that open and close a block. -/
def halves (pair : Token × Token) : List Position :=
  [pair.1.position, pair.2.position]

/-- Every block tag is half of a closed block, a stray closing tag or the tag of an open block, and no tag
is two of these. -/
theorem blockTags_perm (outlines : List Outline) :
    ∀ inner around, AllFit inner outlines →
      (((allTokens outlines).filter Token.isBlockTag).map Token.position).Perm
        ((allPairs outlines).flatMap halves ++
          (allStrays around outlines ++ missing outlines).map Diagnostic.position) := by
  induction outlines using list_induction with
  | nil => intro inner around _; simp [allTokens, allPairs, allStrays, missing, allUnclosed]
  | leaf t rest ih =>
    intro inner around hfit
    obtain ⟨⟨hopen, _⟩, hrest, _⟩ := hfit
    have hlater := ih inner around hrest
    rcases hword : t.keyword? with _ | kind | kind
    · simpa [allTokens, tokens, Token.isBlockTag, hword, allPairs, pairs, allStrays, strays, missing,
        allUnclosed, unclosed] using hlater
    · obtain ⟨o, ho, _⟩ := Token.keyword?_eq_opens_iff.1 hword
      simp [hopen] at ho
    · have hcons := (hlater.cons t.position).trans List.perm_middle.symm
      simpa [allTokens, tokens, Token.isBlockTag, hword, allPairs, pairs, allStrays, strays, missing,
        allUnclosed, unclosed] using hcons
  | block o opening body closing rest ihbody ihrest =>
    intro inner around hfit
    obtain ⟨⟨hopening, hbody, hclosing⟩, hrest, _⟩ := hfit
    have hopenTag : opening.isBlockTag = true := by
      simp [Token.isBlockTag, Token.keyword?_eq_opens_iff.2 ⟨o, hopening, rfl⟩]
    have hinside := ihbody (some o.kind) (some (o.kind, opening.position)) hbody
    have hlater := ihrest inner around hrest
    -- both sides are counted, position by position
    rw [List.perm_iff_count] at hinside hlater ⊢
    intro p
    have hinside := hinside p
    have hlater := hlater p
    rcases closing with _ | t
    · simp [allTokens, tokens, hopenTag, allPairs, pairs, allStrays, strays, missing, allUnclosed,
        unclosed, Diagnostic.position, List.count_cons] at hinside hlater ⊢
      omega
    · have hcloseTag : t.isBlockTag = true := by simp [Token.isBlockTag, (hclosing t rfl).1]
      simp [allTokens, tokens, hopenTag, hcloseTag, allPairs, pairs, allStrays, strays, missing,
        allUnclosed, unclosed, List.count_cons, halves] at hinside hlater ⊢
      omega

/-! ## Stray closing tags -/

/-- There is one diagnostic for each closing tag that the template keeps as text, at the place of the
tag. -/
theorem map_position_allStrays (outlines : List Outline) :
    ∀ around, (allStrays around outlines).map Diagnostic.position =
      (allKeptClosers outlines).map Token.position := by
  induction outlines using list_induction with
  | nil => intro around; simp [allStrays, allKeptClosers]
  | leaf t rest ih =>
    intro around
    rcases hword : t.keyword? with _ | kind | kind <;>
      simp [allStrays, strays, allKeptClosers, keptClosers, Token.isCloser, hword, ih around]
  | block o opening body closing rest ihbody ihrest =>
    intro around
    simp [allStrays, strays, allKeptClosers, keptClosers, ihbody, ihrest around]

/-- A kept closing tag is a text node of the template: its own source. -/
theorem node_of_mem_allKeptClosers (outlines : List Outline) :
    ∀ t ∈ allKeptClosers outlines, t.node = .text t.lexeme := by
  induction outlines using list_induction with
  | nil => simp [allKeptClosers]
  | leaf t rest ih =>
    intro t' ht'
    simp only [allKeptClosers, keptClosers, List.mem_append] at ht'
    rcases ht' with hleaf | hrest
    · split at hleaf
      · rename_i hcloser
        obtain ⟨kind, hword⟩ := Token.isCloser_iff.1 hcloser
        rw [List.mem_singleton.1 hleaf]
        exact Token.node_of_closes hword
      · simp at hleaf
    · exact ih t' hrest
  | block o opening body closing rest ihbody ihrest =>
    intro t' ht'
    simp only [allKeptClosers, keptClosers, List.mem_append] at ht'
    rcases ht' with hbody | hrest
    · exact ihbody t' hbody
    · exact ihrest t' hrest

/-! ## The diagnostics of a source -/

/-- An outline of a source: it nests the tokens of the source, and its tree is the template. -/
structure IsOutlineOf (outlines : List Outline) (source : Text) : Prop where
  tokens_eq : allTokens outlines = (Tokens.ofSource source).tokens
  nodes_eq : nodes outlines = Template.ofSource source
  fits : AllFit none outlines

theorem exists_isOutlineOf (source : Text) : ∃ outlines, IsOutlineOf outlines source := by
  obtain ⟨outlines, htokens, hfit⟩ := exists_outline (Tokens.ofSource source).tokens
  refine ⟨outlines, htokens, ?_, hfit⟩
  rw [Template.ofSource, ← htokens, ofTokens_allTokens hfit]

/-- A source has only one outline. -/
theorem IsOutlineOf.eq {outlines others : List Outline} {source : Text}
    (h : IsOutlineOf outlines source) (h' : IsOutlineOf others source) : others = outlines :=
  (outline_unique others outlines [] [] (by rw [h.tokens_eq, h'.tokens_eq])
    (h'.nodes_eq.trans h.nodes_eq.symm)).1

/-- The places of the tokens of a source are all different. -/
theorem nodup_position (source : Text) :
    (((Tokens.ofSource source).tokens.filter Token.isBlockTag).map Token.position).Nodup := by
  have hsorted := (Tokens.pairwise_offset_scan .start source).filter Token.isBlockTag
  rw [List.nodup_iff_pairwise_ne, List.pairwise_map]
  refine hsorted.imp fun hlt heq => ?_
  rw [heq] at hlt
  exact Nat.lt_irrefl _ hlt

/-- The messages of a source are those of its braces, then one for each closing tag that the template
keeps as text, in source order and at the place of the tag, then one for each open block of the template,
the outer ones first and at the place of the opening tag. So every block tag is half of exactly one closed
block or what exactly one diagnostic is about, and the last two groups are empty exactly if every block is
closed and no closing tag is text. -/
theorem diagnostics_follow_tree (source : Text) :
    ∃ outlines, IsOutlineOf outlines source ∧
      (∀ others, IsOutlineOf others source → others = outlines) ∧
      validate source =
        ((Tokens.ofSource source).defects.map ofDefect ++ allStrays none outlines ++
          missing outlines).map message ∧
      (allStrays none outlines).map Diagnostic.position =
        (allKeptClosers outlines).map Token.position ∧
      (∀ t ∈ allKeptClosers outlines, t.node = .text t.lexeme) ∧
      Node.allUnclosed (Template.ofSource source) = (allUnclosed outlines).map Prod.fst ∧
      (((Tokens.ofSource source).tokens.filter Token.isBlockTag).map Token.position).Nodup ∧
      (((Tokens.ofSource source).tokens.filter Token.isBlockTag).map Token.position).Perm
        ((allPairs outlines).flatMap halves ++
          (allStrays none outlines ++ missing outlines).map Diagnostic.position) ∧
      (ofBlocks (Tokens.ofSource source).tokens = [] ↔
        Node.allUnclosed (Template.ofSource source) = [] ∧ allKeptClosers outlines = []) := by
  obtain ⟨outlines, h⟩ := exists_isOutlineOf source
  have hblocks : ofBlocks (Tokens.ofSource source).tokens =
      allStrays none outlines ++ missing outlines := by
    rw [← h.tokens_eq, ofBlocks_allTokens h.fits]
  have hopen : Node.allUnclosed (Template.ofSource source) = (allUnclosed outlines).map Prod.fst := by
    rw [← h.nodes_eq, allUnclosed_nodes]
  have hstrays := map_position_allStrays outlines none
  refine ⟨outlines, h, fun others h' => h.eq h', ?_, hstrays, node_of_mem_allKeptClosers outlines, hopen,
    nodup_position source, ?_, ?_⟩
  · rw [validate, Diagnostic.ofSource, hblocks, List.append_assoc]
  · rw [← h.tokens_eq]
    exact blockTags_perm outlines none none h.fits
  · rw [hblocks, hopen, List.append_eq_nil_iff, List.map_eq_nil_iff, missing, List.map_eq_nil_iff,
      ← List.map_eq_nil_iff (f := Diagnostic.position), hstrays, List.map_eq_nil_iff]
    exact and_comm

end Outline

end BraceTemplate
