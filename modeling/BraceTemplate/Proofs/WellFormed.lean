import BraceTemplate.Proofs.Braces
import BraceTemplate.Proofs.Structure

/-!
# Well-formed sources

The check of a source works in two passes: its braces first, then its block tags on a stack. What it accepts
can be said by a grammar over the units of the source, without positions, tokens or stacks:

* `foldl_step_scan_append` — a source of the grammar leaves the stack of the check as it was, whatever
  follows it;
* `wellFormed_flatMap_lexeme` — an outline in which nothing is wrong is written in the grammar;
* `validate_eq_nil_iff` — the check finds nothing in exactly the sources of the grammar.
-/

namespace BraceTemplate

/-- The grammar of well-formed sources: plain text, tags without a block word, and blocks between two tags
of one kind. -/
inductive WellFormed : Text → Prop where
  | nil : WellFormed []
  | unit {u : CodeUnit} {rest : Text} (hopen : u ≠ CodeUnit.openBrace)
      (hclose : u ≠ CodeUnit.closeBrace) (hrest : WellFormed rest) : WellFormed (u :: rest)
  | span {body rest : Text} (hbody : Balanced body) (hword : Tag.keyword? body = none)
      (hrest : WellFormed rest) : WellFormed (tagSource body ++ rest)
  | block {kind : BlockKind} {opening inner closing rest : Text} (hopening : Balanced opening)
      (hopens : Tag.keyword? opening = some (.opens kind)) (hinner : WellFormed inner)
      (hclosing : Balanced closing) (hcloses : Tag.keyword? closing = some (.closes kind))
      (hrest : WellFormed rest) :
      WellFormed (tagSource opening ++ (inner ++ (tagSource closing ++ rest)))

namespace WellFormed

/-- In a well-formed source every brace has its partner. -/
theorem balanced {t : Text} (h : WellFormed t) : Balanced t := by
  induction h with
  | nil => exact .nil
  | unit hopen hclose _ ih => exact .unit hopen hclose ih
  | span hbody _ _ ih => exact .span hbody ih
  | block hopening _ _ hclosing _ _ ihinner ihrest =>
    have hafter : Balanced (tagSource _ ++ _) := .span hclosing ihrest
    exact .span hopening (ihinner.append hafter)

/-- Text without braces may stand before a well-formed source. -/
theorem units_append {v rest : Text}
    (hv : ∀ u ∈ v, u ≠ CodeUnit.openBrace ∧ u ≠ CodeUnit.closeBrace) (hrest : WellFormed rest) :
    WellFormed (v ++ rest) := by
  induction v with
  | nil => exact hrest
  | cons u v ih =>
    obtain ⟨hopen, hclose⟩ := hv u List.mem_cons_self
    have hlater : WellFormed (v ++ rest) := ih fun w hw => hv w (List.mem_cons_of_mem u hw)
    exact .unit hopen hclose hlater

/-- Text without braces is well-formed. -/
theorem of_forall {t : Text} (h : ∀ u ∈ t, u ≠ CodeUnit.openBrace ∧ u ≠ CodeUnit.closeBrace) : WellFormed t := by
  have hunits := nil.units_append h
  rwa [List.append_nil] at hunits

end WellFormed

/-! ## The check of a source of the grammar -/

namespace Diagnostic

/-- Plain text does not concern the check. -/
theorem foldl_step_consUnit (u : CodeUnit) (p : Position) (ts : List Token) (m : Matching) :
    (Tokens.consUnit u p ts).foldl Matching.step m = ts.foldl Matching.step m := by
  rcases ts with _ | ⟨_ | _, rest⟩ <;> rfl

/-- The check passes over a well-formed source: it finds nothing, and leaves the open blocks as they were
for what follows. -/
theorem foldl_step_scan_append {t : Text} (h : WellFormed t) :
    ∀ (p : Position) (rest : Text) (m : Matching),
      (Tokens.scan p (t ++ rest)).tokens.foldl Matching.step m =
        (Tokens.scan (p.advance t) rest).tokens.foldl Matching.step m := by
  induction h with
  | nil =>
    intro p rest m
    rfl
  | @unit u t hopen _ _ ih =>
    intro p rest m
    rw [List.cons_append, Tokens.scan_unit hopen, Position.advance_cons]
    exact (foldl_step_consUnit u p _ m).trans (ih (p.step u) rest m)
  | @span body t hbody hword _ ih =>
    intro p rest m
    have hstep : m.step (.tag body p) = m := Outline.step_no_word m.blocks m.found hword
    rw [List.append_assoc, Tokens.scan_tag hbody, Position.advance_append]
    simp only [List.foldl_cons, hstep]
    exact ih (p.advance (tagSource body)) rest m
  | @block kind opening inner closing t hopening hopens _ hclosing hcloses _ ihinner ihrest =>
    intro p rest m
    -- the opening tag is on the stack while the inner source is passed over, so the closing tag finds it
    have henter : m.step (.tag opening p) = ⟨(kind, p) :: m.blocks, m.found⟩ := by
      simp only [Matching.step, hopens]
    have hleave : ∀ q, Matching.step ⟨(kind, p) :: m.blocks, m.found⟩ (.tag closing q) = m :=
      fun q => Outline.step_closes_inner m.blocks m.found hcloses
    simp only [List.append_assoc, Position.advance_append]
    rw [Tokens.scan_tag hopening, List.foldl_cons, henter, ihinner, Tokens.scan_tag hclosing,
      List.foldl_cons, hleave, ihrest]

end Diagnostic

/-! ## Sources in which nothing is wrong -/

namespace Token

/-- Whether the braces of a token are in order: plain text has none, and the body of a tag is balanced. -/
def BracesMatch : Token → Prop
  | text value _ => ∀ u ∈ value, u ≠ CodeUnit.openBrace ∧ u ≠ CodeUnit.closeBrace
  | tag body _ => Balanced body

end Token

namespace Tokens

theorem bracesMatch_consUnit {u : CodeUnit} {p : Position} {ts : List Token} (hopen : u ≠ CodeUnit.openBrace)
    (hclose : u ≠ CodeUnit.closeBrace) (h : ∀ t ∈ ts, t.BracesMatch) :
    ∀ t ∈ consUnit u p ts, t.BracesMatch := by
  rcases ts with _ | ⟨⟨value, q⟩ | ⟨body, q⟩, rest⟩
  · simp [consUnit, Token.BracesMatch, hopen, hclose]
  · simp only [consUnit, List.forall_mem_cons] at h ⊢
    refine ⟨?_, h.2⟩
    intro w hw
    rcases List.mem_cons.1 hw with rfl | hw
    · exact ⟨hopen, hclose⟩
    · exact h.1 w hw
  · simp only [consUnit, List.forall_mem_cons] at h ⊢
    refine ⟨?_, h⟩
    intro w hw
    rw [List.mem_singleton.1 hw]
    exact ⟨hopen, hclose⟩

/-- The tokens of a text without a defect have their braces in order. -/
theorem bracesMatch_scan (p : Position) (t : Text) (h : (scan p t).defects = []) :
    ∀ token ∈ (scan p t).tokens, token.BracesMatch := by
  induction p, t using scan_induction with
  | nil p => simp [scan_nil]
  | unclosed p rest hnone =>
    rw [scan_unclosed hnone] at h
    simp at h
  | tag p body after hbody ih =>
    rw [scan_tag hbody] at h ⊢
    exact List.forall_mem_cons.2 ⟨hbody, ih h⟩
  | unit p u rest hopen ih =>
    rw [scan_unit hopen] at h ⊢
    by_cases hclose : u = CodeUnit.closeBrace
    · simp [hclose] at h
    · exact bracesMatch_consUnit hopen hclose (ih (by simpa [hclose] using h))

end Tokens

namespace Outline

/-- Outlines without open blocks and stray closing tags are written in the grammar. -/
theorem wellFormed_flatMap_lexeme (outlines : List Outline) :
    ∀ inner around, AllFit inner outlines → allUnclosed outlines = [] → allStrays around outlines = [] →
      (∀ t ∈ allTokens outlines, t.BracesMatch) → WellFormed ((allTokens outlines).flatMap Token.lexeme) := by
  induction outlines using list_induction with
  | nil =>
    intro inner around _ _ _ _
    exact .nil
  | leaf t rest ih =>
    intro inner around hfit hclosed hstrays hbraces
    obtain ⟨⟨hopen, -⟩, hrest, -⟩ := hfit
    simp only [allStrays, List.append_eq_nil_iff] at hstrays
    simp only [allTokens, tokens, List.singleton_append, List.forall_mem_cons] at hbraces
    have hlater := ih inner around hrest hclosed hstrays.2 hbraces.2
    cases t with
    | text value p => exact hlater.units_append hbraces.1
    | tag body p =>
      -- a tag that opens nothing and is no stray has no block word
      have hword : Tag.keyword? body = none := by
        rcases hkeyword : Tag.keyword? body with _ | kind | kind
        · rfl
        · have hopens : (Token.tag body p).keyword? = some (.opens kind) := hkeyword
          obtain ⟨o, ho, -⟩ := Token.keyword?_eq_opens_iff.1 hopens
          simp [hopen] at ho
        · simp [strays, Token.keyword?, hkeyword] at hstrays
      exact .span hbraces.1 hword hlater
  | block o opening body closing rest ihbody ihrest =>
    intro inner around hfit hclosed hstrays hbraces
    obtain ⟨⟨hopening, hbody, hclosing⟩, hrest, -⟩ := hfit
    rcases closing with _ | c
    · simp [allUnclosed, unclosed] at hclosed
    · obtain ⟨hcloses, hnone⟩ := hclosing c rfl
      have hopens := Token.keyword?_eq_opens_iff.2 ⟨o, hopening, rfl⟩
      simp only [allUnclosed, List.append_eq_nil_iff] at hclosed
      simp only [allStrays, strays, List.append_eq_nil_iff] at hstrays
      simp only [allTokens, tokens, Option.toList_some, List.cons_append, List.append_assoc,
        List.nil_append, List.forall_mem_cons, List.forall_mem_append] at hbraces
      obtain ⟨hbracesOpening, hbracesBody, hbracesClosing, hbracesRest⟩ := hbraces
      have hinside := ihbody _ _ hbody hnone hstrays.1 hbracesBody
      have hlater := ihrest inner around hrest hclosed.2 hstrays.2 hbracesRest
      cases opening with
      | text value p => simp [Token.keyword?] at hopens
      | tag opening p =>
        cases c with
        | text value q => simp [Token.keyword?] at hcloses
        | tag closing q =>
          have hblock := WellFormed.block hbracesOpening hopens hinside hbracesClosing hcloses hlater
          simpa [allTokens, tokens, Token.lexeme] using hblock

end Outline

/-! ## Both directions -/

open Diagnostic in
/-- A text is well-formed exactly if neither its braces nor its block tags give a diagnostic, wherever it
begins. -/
theorem wellFormed_iff (p : Position) (t : Text) :
    WellFormed t ↔ (Tokens.scan p t).defects = [] ∧ ofBlocks (Tokens.scan p t).tokens = [] := by
  constructor
  · intro h
    refine ⟨(defects_scan_eq_nil_iff p t).2 h.balanced, ?_⟩
    have hrun := foldl_step_scan_append h p [] ⟨[], []⟩
    rw [List.append_nil, Tokens.scan_nil, List.foldl_nil] at hrun
    simp [ofBlocks, hrun]
  · rintro ⟨hdefects, hblocks⟩
    obtain ⟨outlines, htokens, hfit⟩ := Outline.exists_outline (Tokens.scan p t).tokens
    have hbraces := Tokens.bracesMatch_scan p t hdefects
    rw [← htokens, Outline.ofBlocks_allTokens hfit, List.append_eq_nil_iff, Outline.missing,
      List.map_eq_nil_iff] at hblocks
    rw [← htokens] at hbraces
    have hsource := Tokens.flatMap_lexeme_scan p t
    rw [← htokens] at hsource
    rw [← hsource]
    exact Outline.wellFormed_flatMap_lexeme outlines none none hfit hblocks.2 hblocks.1 hbraces

/-- Nothing is wrong with the structure of exactly the sources of the grammar. -/
theorem Diagnostic.ofSource_eq_nil_iff (source : Text) : ofSource source = [] ↔ WellFormed source := by
  rw [wellFormed_iff .start source, ofSource, List.append_eq_nil_iff, List.map_eq_nil_iff]
  rfl

/-- A source has no diagnostics exactly if it is built by the grammar. -/
theorem validate_eq_nil_iff (source : Text) : validate source = [] ↔ WellFormed source := by
  rw [validate, List.map_eq_nil_iff, Diagnostic.ofSource_eq_nil_iff]

end BraceTemplate
