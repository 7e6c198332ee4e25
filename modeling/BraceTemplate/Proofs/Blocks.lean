import BraceTemplate.Proofs.Concatenation
import BraceTemplate.Proofs.Trimming
import BraceTemplate.Proofs.WellFormed
import Mathlib.Data.Bool.AllAny

/-!
# Blocks as they are written

What a block does can be said of its source: a well-formed source between an opening and a closing tag is the
body of one closed block, whatever blocks it has itself, and the opening tag means what is written in it.

* `ofBody_condition`, `ofBody_loop` — what the two opening tags mean;
* `ofSource_block` — the template of a block;
* `render_blocks` — what a conditional block and a loop render to, for every test and every list.
-/

namespace BraceTemplate

/-! ## Opening tags -/

/-- What stands in the tag of a conditional block. -/
def conditionBody (test : Text) : Text :=
  Text.ofString "if " ++ test

/-- What stands in the tag of a loop. -/
def loopBody (binding list : Text) : Text :=
  Text.ofString "for " ++ binding ++ Text.ofString " in " ++ list

theorem CodeUnit.isBlank_space : CodeUnit.isBlank 0x20 = true := by decide

theorem conditionBody_eq (test : Text) : conditionBody test = Name.ifWord ++ 0x20 :: test := rfl

theorem loopBody_eq (binding list : Text) :
    loopBody binding list = Name.forWord ++ 0x20 :: (binding ++ 0x20 :: (Name.inWord ++ 0x20 :: list)) := by
  simp only [loopBody, List.append_assoc]
  rfl

theorem Text.dropStart?_append (start t : Text) : dropStart? start (start ++ t) = some t := by
  have hstart : start.isPrefixOf (start ++ t) = true := List.isPrefixOf_iff_prefix.2 (List.prefix_append _ _)
  rw [dropStart?, if_pos hstart, List.drop_left]

/-- A name has no braces. -/
theorem Name.ne_brace_of_isValid {name : Text} (hname : isValid name) :
    ∀ u ∈ name, u ≠ CodeUnit.openBrace ∧ u ≠ CodeUnit.closeBrace := by
  have hopen : CodeUnit.continuesName CodeUnit.openBrace = false := by decide
  have hclose : CodeUnit.continuesName CodeUnit.closeBrace = false := by decide
  obtain ⟨_, _, -, -, hall⟩ := exists_cons_of_isValid hname
  intro u hu
  have hcontinues := hall u hu
  constructor
  · rintro rfl
    simp [hopen] at hcontinues
  · rintro rfl
    simp [hclose] at hcontinues

namespace Tag

/-- After a word and a blank, further blanks do not count. -/
theorem afterWord?_append (word : Text) {u : CodeUnit} (hu : u.isBlank) (t : Text) :
    afterWord? word (word ++ u :: t) = some t.trimStart := by
  simp only [afterWord?, Text.dropStart?_append, hu, if_true]

section Opening

variable {e : Text} (he : ∃ u ∈ e, u.isBlank = false)
include he

theorem trim_conditionBody : (conditionBody e).trim = conditionBody e.trimEnd :=
  Text.trim_append (u := 0x69) (by decide) [0x66, 0x20] he

theorem trim_loopBody (binding : Text) : (loopBody binding e).trim = loopBody binding e.trimEnd :=
  Text.trim_append (u := 0x66) (by decide) (Text.ofString "or " ++ binding ++ Text.ofString " in ") he

theorem condition?_conditionBody : condition? (conditionBody e) = some e.trimStart := by
  rw [condition?, conditionBody_eq, afterWord?_append _ CodeUnit.isBlank_space]
  split
  · rename_i hnil
    exact absurd (Option.some.inj hnil) (Text.trimStart_ne_nil he)
  · rfl

theorem loop?_loopBody {binding : Text} (hbinding : Name.isValid binding) :
    loop? (loopBody binding e) = some (binding, e.trimStart) := by
  -- the binding begins with no blank, and ends before the one in front of the next word
  have hstart : ∀ rest, Text.trimStart (binding ++ rest) = binding ++ rest := by
    intro rest
    obtain ⟨v, name, rfl, -, hall⟩ := Name.exists_cons_of_isValid hbinding
    exact Text.trimStart_cons (CodeUnit.isBlank_of_continuesName (hall v List.mem_cons_self)) _
  have hspace : CodeUnit.continuesName 0x20 = false := by decide
  have hin : Text.trimStart (Name.inWord ++ 0x20 :: e) = Name.inWord ++ 0x20 :: e :=
    Text.trimStart_cons (u := 0x69) (by decide) _
  simp only [loop?, loopBody_eq, afterWord?_append _ CodeUnit.isBlank_space, hstart,
    Name.split?_append hbinding hspace, CodeUnit.isBlank_space, if_true, hin]
  split
  · rename_i hnil
    exact absurd (Option.some.inj hnil) (Text.trimStart_ne_nil he)
  · rename_i source _ hsource
    rw [← Option.some.inj hsource]
  · rename_i hnone
    simp at hnone

theorem keyword?_conditionBody : keyword? (conditionBody e) = some (.opens .cond) := by
  have hendif : conditionBody e.trimEnd ≠ Name.endifWord := fun h => absurd (List.cons.inj h).1 (by decide)
  have hendfor : conditionBody e.trimEnd ≠ Name.endforWord := fun h => absurd (List.cons.inj h).1 (by decide)
  simp only [keyword?, trim_conditionBody he, hendif, hendfor, if_false,
    condition?_conditionBody (Text.exists_mem_trimEnd he), Option.isSome_some, if_true]

theorem keyword?_loopBody {binding : Text} (hbinding : Name.isValid binding) :
    keyword? (loopBody binding e) = some (.opens .loop) := by
  have hendif : loopBody binding e.trimEnd ≠ Name.endifWord := fun h => absurd (List.cons.inj h).1 (by decide)
  have hendfor : loopBody binding e.trimEnd ≠ Name.endforWord := fun h => absurd (List.cons.inj h).1 (by decide)
  have hcondition : condition? (loopBody binding e.trimEnd) = none := rfl
  simp only [keyword?, trim_loopBody he, hendif, hendfor, if_false, hcondition, Option.isSome_none,
    Bool.false_eq_true, loop?_loopBody (Text.exists_mem_trimEnd he) hbinding, Option.isSome_some, if_true]

/-- The tag of a conditional block means the test that is written in it, or none if it spells none. -/
theorem ofBody_condition : ofBody (conditionBody e) = .cond (Expression.ofText? e) := by
  rw [ofBody_of_opens_cond (keyword?_conditionBody he), trim_conditionBody he,
    condition?_conditionBody (Text.exists_mem_trimEnd he), Option.bind_some, Expression.ofText?_trimStart,
    Expression.ofText?_trimEnd]

/-- The tag of a loop means the binding and the list that are written in it. -/
theorem ofBody_loop {binding : Text} (hbinding : Name.isValid binding) :
    ofBody (loopBody binding e) = .loop binding (Expression.ofText? e) := by
  obtain ⟨name, source, hloop, hbody⟩ := ofBody_of_opens_loop (keyword?_loopBody he hbinding)
  rw [trim_loopBody he, loop?_loopBody (Text.exists_mem_trimEnd he) hbinding] at hloop
  obtain ⟨rfl, rfl⟩ := Prod.mk.inj (Option.some.inj hloop)
  rw [hbody, Expression.ofText?_trimStart, Expression.ofText?_trimEnd]

end Opening

end Tag

/-! ## The template of a block -/

namespace Outline

/-- Outlines without stray closing tags fit anywhere. -/
theorem AllFit.within {outlines : List Outline} (hfit : AllFit none outlines)
    {around : Option (BlockKind × Position)} (hstrays : allStrays around outlines = [])
    (inner : Option BlockKind) : AllFit inner outlines := by
  induction outlines with
  | nil => trivial
  | cons outline rest ih =>
    obtain ⟨hfirst, hrest, hend⟩ := hfit
    simp only [allStrays, List.append_eq_nil_iff] at hstrays
    refine ⟨?_, ih hrest hstrays.2, hend⟩
    cases outline with
    | leaf t =>
      refine ⟨hfirst.1, fun kind hword => ?_⟩
      simp [strays, hword] at hstrays
    | block o opening body closing => exact hfirst

end Outline

namespace Template

/-- A well-formed source between an opening tag and a closing tag of its kind is the body of one closed
block. No tag inside can close the block, and the block closes none inside. -/
theorem ofSource_block {opening closing body : Text} {o : Opener} (hopening : Balanced opening)
    (hclosing : Balanced closing) (hopener : ∀ p, (Token.tag opening p).opener? = some o)
    (hcloses : Tag.keyword? closing = some (.closes o.kind)) (hbody : WellFormed body) :
    ofSource (tagSource opening ++ body ++ tagSource closing) = [.block o (ofSource body) true] := by
  generalize hp : Position.start.advance (tagSource opening) = p
  obtain ⟨hdefects, hblocks⟩ := (wellFormed_iff p body).1 hbody
  -- the tokens of the body, between those of the two tags
  have hunclosed : ∀ d ∈ (Tokens.scan p body).defects, d.kind ≠ .unclosed := by simp [hdefects]
  have hend := Tokens.scan_tag hclosing (p.advance body) []
  rw [List.append_nil, Tokens.scan_nil] at hend
  have hseam := Tokens.seam_scan p body (tagSource closing) hunclosed
  rw [hend] at hseam
  have htokens : (Tokens.scan .start (tagSource opening ++ body ++ tagSource closing)).tokens =
      .tag opening .start :: ((Tokens.scan p body).tokens ++ [.tag closing (p.advance body)]) := by
    rw [List.append_assoc, Tokens.scan_tag hopening, hp]
    generalize (Tokens.scan p (body ++ tagSource closing)).tokens = all at hseam ⊢
    generalize (Tokens.scan p body).tokens = ts at hseam ⊢
    -- a tag is never joined with the text before it
    cases hseam with
    | apart => rfl
  -- the outline of the body fits between them
  obtain ⟨outlines, hall, hfit⟩ := Outline.exists_outline (Tokens.scan p body).tokens
  rw [← hall, Outline.ofBlocks_allTokens hfit, List.append_eq_nil_iff, Outline.missing,
    List.map_eq_nil_iff] at hblocks
  have hinside := hfit.within hblocks.1 (some o.kind)
  have hblock : Outline.AllFit none
      [.block o (.tag opening .start) outlines (some (.tag closing (p.advance body)))] := by
    refine ⟨⟨hopener _, hinside, fun t ht => ?_⟩, trivial, .inr rfl⟩
    rw [← Option.some.inj ht]
    exact ⟨hcloses, hblocks.2⟩
  have hnodes : Outline.nodes outlines = ofSource body := by
    rw [← Outline.ofTokens_allTokens hfit, hall]
    exact ofTokens_congr (Tokens.map_bare_scan p .start body)
  have htemplate := Outline.ofTokens_allTokens hblock
  simp only [Outline.allTokens, Outline.tokens, Outline.nodes, Outline.node, hnodes, hall,
    Option.toList_some, Option.isSome_some, List.append_nil] at htemplate
  rw [ofSource, Tokens.ofSource, htokens]
  exact htemplate

end Template

/-! ## Rendering blocks -/

/-- The source of a conditional block. -/
def conditionSource (test body : Text) : Text :=
  tagSource (conditionBody test) ++ body ++ tagSource Name.endifWord

/-- The source of a loop. -/
def loopSource (binding list body : Text) : Text :=
  tagSource (loopBody binding list) ++ body ++ tagSource Name.endforWord

/-- Text without braces is balanced. -/
theorem balanced_of_forall {t : Text} (h : ∀ u ∈ t, u ≠ CodeUnit.openBrace ∧ u ≠ CodeUnit.closeBrace) :
    Balanced t :=
  (WellFormed.of_forall h).balanced

/-- A word without braces is balanced; that it has none can be computed. -/
theorem balanced_of_all {t : Text} (h : t.all fun u => u ≠ CodeUnit.openBrace ∧ u ≠ CodeUnit.closeBrace) :
    Balanced t :=
  balanced_of_forall (List.all_iff_forall_prop.1 h)

theorem balanced_conditionBody {e : Text}
    (he : ∀ u ∈ e, u ≠ CodeUnit.openBrace ∧ u ≠ CodeUnit.closeBrace) : Balanced (conditionBody e) := by
  have hword : Balanced (Text.ofString "if ") := balanced_of_all (by decide)
  exact hword.append (balanced_of_forall he)

theorem balanced_loopBody {binding e : Text} (hbinding : Name.isValid binding)
    (he : ∀ u ∈ e, u ≠ CodeUnit.openBrace ∧ u ≠ CodeUnit.closeBrace) : Balanced (loopBody binding e) := by
  have hfor : Balanced (Text.ofString "for ") := balanced_of_all (by decide)
  have hname : Balanced binding := balanced_of_forall (Name.ne_brace_of_isValid hbinding)
  have hin : Balanced (Text.ofString " in ") := balanced_of_all (by decide)
  exact ((hfor.append hname).append hin).append (balanced_of_forall he)

/-- A conditional block around a well-formed source is one node. -/
theorem ofSource_conditionSource {e body : Text}
    (hbraces : ∀ u ∈ e, u ≠ CodeUnit.openBrace ∧ u ≠ CodeUnit.closeBrace)
    (he : ∃ u ∈ e, u.isBlank = false) (hbody : WellFormed body) :
    Template.ofSource (conditionSource e body) =
      [.block (.cond (Expression.ofText? e)) (Template.ofSource body) true] := by
  have hopener : ∀ p, (Token.tag (conditionBody e) p).opener? = some (.cond (Expression.ofText? e)) := by
    intro p
    simp only [Token.opener?, Tag.ofBody_condition he]
  have hclosing : Balanced Name.endifWord := balanced_of_all (by decide)
  have hcloses : Tag.keyword? Name.endifWord = some (.closes .cond) := by decide
  exact Template.ofSource_block (balanced_conditionBody hbraces) hclosing hopener hcloses hbody

/-- A loop around a well-formed source is one node. -/
theorem ofSource_loopSource {binding e body : Text} (hbinding : Name.isValid binding)
    (hbraces : ∀ u ∈ e, u ≠ CodeUnit.openBrace ∧ u ≠ CodeUnit.closeBrace)
    (he : ∃ u ∈ e, u.isBlank = false) (hbody : WellFormed body) :
    Template.ofSource (loopSource binding e body) =
      [.block (.loop binding (Expression.ofText? e)) (Template.ofSource body) true] := by
  have hopener : ∀ p, (Token.tag (loopBody binding e) p).opener? =
      some (.loop binding (Expression.ofText? e)) := by
    intro p
    simp only [Token.opener?, Tag.ofBody_loop he hbinding]
  have hclosing : Balanced Name.endforWord := balanced_of_all (by decide)
  have hcloses : Tag.keyword? Name.endforWord = some (.closes .loop) := by decide
  exact Template.ofSource_block (balanced_loopBody hbinding hbraces) hclosing hopener hcloses hbody

section Rendering

variable {σ : Type} (registry : Registry σ) (ctx : Context)

theorem Node.renderAll_singleton (n : Node) : Node.renderAll registry ctx [n] = n.render registry ctx := by
  simp only [Node.renderAll, pure_bind, List.append_nil, bind_pure]

/-- Around any body without diagnostics, and with any text without braces that is not all blanks: a
conditional block renders to its body if the text spells a test that holds, and else to nothing; a loop
renders to its body once for each place of the list that the text spells, in order and with its item bound, or
with null where the list has a gap, and to nothing if it spells no list. The test and the list are evaluated
once, before the body. -/
theorem render_blocks (binding e body : Text) (hbinding : Name.isValid binding)
    (hbraces : ∀ u ∈ e, u ≠ CodeUnit.openBrace ∧ u ≠ CodeUnit.closeBrace)
    (he : ∃ u ∈ e, u.isBlank = false) (hbody : validate body = []) :
    Template.render registry ctx (Template.ofSource (conditionSource e body)) = (do
      if ← Expression.test registry ctx (Expression.ofText? e) then
        Template.render registry ctx (Template.ofSource body)
      else pure []) ∧
    Template.render registry ctx (Template.ofSource (loopSource binding e body)) =
      (match Expression.ofText? e with
      | none => pure []
      | some list => do
        match ← list.evaluate registry ctx with
        | some (.list items) =>
          Render.concat (fun item =>
            Template.render registry (ctx.bind binding (item.getD .null)) (Template.ofSource body)) items
        | _ => pure []) := by
  have hwell : WellFormed body := (Diagnostic.ofSource_eq_nil_iff body).1 (List.map_eq_nil_iff.1 hbody)
  constructor
  · rw [ofSource_conditionSource hbraces he hwell]
    exact Node.renderAll_singleton registry ctx _
  · rw [ofSource_loopSource hbinding hbraces he hwell]
    refine (Node.renderAll_singleton registry ctx _).trans ?_
    cases Expression.ofText? e with
    | none => rfl
    | some list => rfl

end Rendering

/-- Blanks around the test and around the list, three items and a gap, and a conditional block inside the body:
outside the loop `x` does not resolve, inside it is bound to each item, and at the gap to null, which does not
resolve either. -/
theorem render_blocks_nested :
    (Name.isValid "x" = true ∧
      (∀ u ∈ Text.ofString " xs ", u ≠ CodeUnit.openBrace ∧ u ≠ CodeUnit.closeBrace) ∧
      (∃ u ∈ Text.ofString " xs ", u.isBlank = false) ∧ validate "{x}{if x}!{endif}" = []) ∧
    (Template.render .empty ⟨[("xs", .list [some (.text "a"), some (.text []), none, some (.text "b")])], [], []⟩
      (Template.ofSource (conditionSource " xs " "{x}{if x}!{endif}")) ()).answer.toOption =
        some (Text.ofString "{x}") ∧
    (Template.render .empty ⟨[("xs", .list [some (.text "a"), some (.text []), none, some (.text "b")])], [], []⟩
      (Template.ofSource (loopSource "x" " xs " "{x}{if x}!{endif}")) ()).answer.toOption =
        some (Text.ofString "a!{x}b!") := by
  have hbraces : ∀ u ∈ Text.ofString " xs ", u ≠ CodeUnit.openBrace ∧ u ≠ CodeUnit.closeBrace :=
    List.all_iff_forall_prop.1 (by decide)
  have hblank : ∃ u ∈ Text.ofString " xs ", u.isBlank = false := List.any_iff_exists_prop.1 (by decide)
  have hbody : validate "{x}{if x}!{endif}" = [] := by decide +kernel
  have hrender := render_blocks (.empty : Registry Unit)
    ⟨[("xs", .list [some (.text "a"), some (.text []), none, some (.text "b")])], [], []⟩ "x" " xs "
    "{x}{if x}!{endif}" (by decide) hbraces hblank hbody
  refine ⟨⟨by decide, hbraces, hblank, hbody⟩, ?_, ?_⟩
  · rw [hrender.1]
    decide +kernel
  · rw [hrender.2]
    decide +kernel

end BraceTemplate
