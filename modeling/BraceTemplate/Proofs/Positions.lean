import BraceTemplate.Proofs.Braces
import BraceTemplate.Proofs.Digits
import BraceTemplate.Proofs.Structure
import Mathlib.Order.Bounds.Defs

/-!
# Positions are exact

Line and column are counted along with the scan, and whole tags are passed over at once. Here they are compared with
what they mean: the line is found by counting line feeds from the start of the source, and the column by counting from
the last place where a line begins.

* `Position.isIn_advance` — the position after a part of a source is the one that this part has;
* `Tokens.isIn_of_mem_tokens`, `Tokens.isIn_of_mem_defects` — tokens and defects stand where their positions say;
* `Outline.isStrayOf_of_mem_allStrays` — a closing tag is reported with the tag of the innermost block around it;
* `Diagnostic.prints_message` — a message holds no other numbers than the lines and columns of what it reports;
* `positions_are_exact` — all of it, for a whole source.
-/

namespace BraceTemplate

/-! ## What line and column mean -/

/-- Whether a line of a text begins at an offset: nothing is before it, or a line feed directly before it. -/
def Text.BeginsLine (t : Text) (offset : Nat) : Prop :=
  offset = 0 ∨ ∃ before, offset = before + 1 ∧ t[before]? = some CodeUnit.lineFeed

namespace Position

/-- Whether a position is that of its offset in a source. The line counts the line feeds before it, and the column the
units from the last offset up to it at which a line begins, both from one. -/
structure IsIn (p : Position) (source : Text) : Prop where
  line_eq : p.line = 1 + (source.take p.offset).count CodeUnit.lineFeed
  column_eq : ∃ first, IsGreatest {k | source.BeginsLine k ∧ k ≤ p.offset} first ∧
    p.column = p.offset - first + 1

variable {p : Position} {source : Text}

theorem isIn_start (source : Text) : start.IsIn source where
  line_eq := rfl
  column_eq := ⟨0, ⟨⟨.inl rfl, Nat.le_refl 0⟩, fun _ hk => hk.2⟩, rfl⟩

/-- A step over a unit of the source leads to the position of the next one. -/
theorem IsIn.step (h : p.IsIn source) {u : CodeUnit} (hu : source[p.offset]? = some u) : (p.step u).IsIn source := by
  obtain ⟨hline, first, ⟨⟨hbegins, hle⟩, hgreatest⟩, hcolumn⟩ := h
  have htake : source.take (p.offset + 1) = source.take p.offset ++ [u] := by
    rw [List.take_add_one, hu, Option.toList_some]
  by_cases hfeed : u = CodeUnit.lineFeed
  · -- behind a line feed a line begins, and no later one can
    subst hfeed
    rw [Position.step, if_pos rfl]
    constructor
    · simp only [htake, List.count_append, List.count_singleton_self]
      omega
    · refine ⟨p.offset + 1, ⟨⟨.inr ⟨p.offset, rfl, hu⟩, Nat.le_refl _⟩, fun _ hk => hk.2⟩, ?_⟩
      simp only
      omega
  · rw [Position.step, if_neg hfeed]
    constructor
    · have hnone : List.count CodeUnit.lineFeed [u] = 0 := List.count_eq_zero.2 (by simpa using Ne.symm hfeed)
      simp only [htake, List.count_append, hnone, Nat.add_zero]
      exact hline
    · refine ⟨first, ⟨⟨hbegins, Nat.le_succ_of_le hle⟩, ?_⟩, ?_⟩
      · rintro k ⟨hk, hkle⟩
        -- a line that begins at the new offset would have this unit as the line feed before it
        have hne : k ≠ p.offset + 1 := by
          rintro rfl
          rcases hk with hzero | ⟨before, heq, hbefore⟩
          · omega
          · obtain rfl : before = p.offset := by omega
            rw [hu] at hbefore
            exact hfeed (Option.some.inj hbefore)
        have hkle' : k ≤ p.offset + 1 := hkle
        exact hgreatest ⟨hk, by omega⟩
      · simp only
        omega

/-- The position after the units before a place is the position of that place. -/
theorem isIn_advance (before after : Text) : (start.advance before).IsIn (before ++ after) := by
  induction before using List.reverseRecOn generalizing after with
  | nil => exact isIn_start after
  | append_singleton before u ih =>
    have hunit : (before ++ u :: after)[(start.advance before).offset]? = some u := by
      rw [advance_offset, show start.offset = 0 from rfl, Nat.zero_add, List.getElem?_append_right (Nat.le_refl _)]
      simp
    have hstep := (ih (u :: after)).step hunit
    rw [List.append_assoc, advance_append]
    exact hstep

end Position

/-! ## Tokens and defects -/

/-- The brace that a defect of a kind is about. -/
def BraceDefect.Kind.brace : BraceDefect.Kind → CodeUnit
  | unclosed => CodeUnit.openBrace
  | unopened => CodeUnit.closeBrace

namespace Tokens

theorem isIn_of_mem_tokens {source : Text} {t : Token} (h : t ∈ (ofSource source).tokens) : t.position.IsIn source := by
  obtain ⟨before, after, htokens⟩ := List.append_of_mem h
  have hsource := flatMap_lexeme_scan .start source
  have hplaced := placed_scan .start source
  rw [ofSource] at htokens
  rw [htokens] at hsource hplaced
  rw [List.flatMap_append] at hsource
  rw [hplaced.position_eq, ← hsource]
  exact Position.isIn_advance _ _

/-- A defect is at the position after the units before its brace. -/
theorem exists_of_mem_defects (p : Position) (t : Text) :
    ∀ d ∈ (scan p t).defects, ∃ before after,
      t = before ++ d.kind.brace :: after ∧ d.position = p.advance before := by
  induction p, t using scan_induction with
  | nil p => simp [scan_nil]
  | unclosed p rest h =>
    intro d hd
    rw [scan_unclosed h, List.mem_singleton] at hd
    subst hd
    exact ⟨[], rest, rfl, rfl⟩
  | tag p body after hbody ih =>
    intro d hd
    rw [scan_tag hbody] at hd
    obtain ⟨before, rest, rfl, hposition⟩ := ih d hd
    refine ⟨tagSource body ++ before, rest, (List.append_assoc ..).symm, ?_⟩
    rw [hposition, Position.advance_append]
  | unit p u rest h ih =>
    intro d hd
    rw [scan_unit h] at hd
    have hlater : d ∈ (scan (p.step u) rest).defects → ∃ before after,
        u :: rest = before ++ d.kind.brace :: after ∧ d.position = p.advance before := by
      intro hmem
      obtain ⟨before, after, rfl, hposition⟩ := ih d hmem
      exact ⟨u :: before, after, rfl, hposition⟩
    by_cases hclose : u = CodeUnit.closeBrace
    · simp only [if_pos hclose] at hd
      rcases List.mem_cons.1 hd with rfl | hd
      · exact ⟨[], rest, by rw [hclose]; rfl, rfl⟩
      · exact hlater hd
    · simp only [if_neg hclose] at hd
      exact hlater hd

/-- A defect has the position of its brace, and the brace stands there. -/
theorem isIn_of_mem_defects {source : Text} {d : BraceDefect} (h : d ∈ (ofSource source).defects) :
    d.position.IsIn source ∧ source[d.position.offset]? = some d.kind.brace := by
  obtain ⟨before, after, rfl, hposition⟩ := exists_of_mem_defects .start source d h
  have hoffset : d.position.offset = before.length := by
    rw [hposition, Position.advance_offset]
    exact Nat.zero_add _
  constructor
  · rw [hposition]
    exact Position.isIn_advance _ _
  · rw [hoffset, List.getElem?_append_right (Nat.le_refl _), Nat.sub_self, List.getElem?_cons_zero]

theorem le_offset_of_mem_defects {p : Position} {t : Text} {d : BraceDefect} (h : d ∈ (scan p t).defects) :
    p.offset ≤ d.position.offset := by
  obtain ⟨before, after, -, hposition⟩ := exists_of_mem_defects p t d h
  rw [hposition, Position.advance_offset]
  omega

/-- The defects of a source come one after another. -/
theorem pairwise_offset_defects (p : Position) (t : Text) :
    (scan p t).defects.Pairwise fun a b => a.position.offset < b.position.offset := by
  induction p, t using scan_induction with
  | nil p => simp [scan_nil]
  | unclosed p rest h => simp [scan_unclosed h]
  | tag p body after hbody ih =>
    rw [scan_tag hbody]
    exact ih
  | unit p u rest h ih =>
    rw [scan_unit h]
    by_cases hclose : u = CodeUnit.closeBrace
    · simp only [if_pos hclose]
      refine .cons (fun d hd => ?_) ih
      have hle := le_offset_of_mem_defects hd
      rw [Position.step_offset] at hle
      exact hle
    · simp only [if_neg hclose]
      exact ih

end Tokens

/-! ## The innermost block around a token -/

namespace Outline

mutual

/-- Every token of an outline with the token that opens the innermost block around it, if it is in one. -/
def surroundings (around : Option Token) : Outline → List (Token × Option Token)
  | leaf t => [(t, around)]
  | block _ opening body closing =>
    (opening, around) :: (allSurroundings (some opening) body ++ closing.toList.map (·, around))

/-- Every token of outlines with the token that opens the innermost block around it. -/
def allSurroundings (around : Option Token) : List Outline → List (Token × Option Token)
  | [] => []
  | outline :: rest => surroundings around outline ++ allSurroundings around rest

end

/-- No token is left out, and none comes twice. -/
theorem map_fst_allSurroundings (outlines : List Outline) :
    ∀ around, (allSurroundings around outlines).map Prod.fst = allTokens outlines := by
  induction outlines using list_induction with
  | nil => intro around; simp [allSurroundings, allTokens]
  | leaf t rest ih => intro around; simp [allSurroundings, surroundings, allTokens, tokens, ih around]
  | block o opening body closing rest ihbody ihrest =>
    intro around
    simp [allSurroundings, surroundings, allTokens, tokens, ihbody, ihrest around, Function.comp_def]

/-- Whether a diagnostic is that of a closing tag among outlines that does not close the innermost block around it. This
block is the one around the outlines, or it is opened in them. -/
def IsStrayOf (around : Option (Opener × Token)) (outlines : List Outline) (d : Diagnostic) : Prop :=
  ∃ (t : Token) (kind : BlockKind) (inner : Option (Opener × Token)),
    (t, inner.map Prod.snd) ∈ allSurroundings (around.map Prod.snd) outlines ∧
    t.keyword? = some (.closes kind) ∧ inner.map (fun b => b.1.kind) ≠ some kind ∧
    d = .ofStray (inner.map asOpen) kind t.position ∧
    (inner = around ∨ ∃ b, inner = some b ∧ b.2 ∈ allTokens outlines ∧ b.2.opener? = some b.1)

theorem IsStrayOf.cons {around : Option (Opener × Token)} {outlines : List Outline} {d : Diagnostic}
    (h : IsStrayOf around outlines d) (outline : Outline) : IsStrayOf around (outline :: outlines) d := by
  obtain ⟨t, kind, inner, hmem, hword, hne, heq, hinner⟩ := h
  refine ⟨t, kind, inner, List.mem_append_right _ hmem, hword, hne, heq, ?_⟩
  rcases hinner with hinner | ⟨b, hb, hmemb, hopener⟩
  · exact .inl hinner
  · exact .inr ⟨b, hb, List.mem_append_right _ hmemb, hopener⟩

/-- What is a stray in the body of a block is one among the outlines that hold the block. -/
theorem IsStrayOf.block {o : Opener} {opening : Token} {body : List Outline} {d : Diagnostic}
    (h : IsStrayOf (some (o, opening)) body d) (hopening : opening.opener? = some o) (around : Option (Opener × Token))
    (closing : Option Token) (rest : List Outline) : IsStrayOf around (.block o opening body closing :: rest) d := by
  obtain ⟨t, kind, inner, hmem, hword, hne, heq, hinner⟩ := h
  refine ⟨t, kind, inner, ?_, hword, hne, heq, .inr ?_⟩
  · rw [allSurroundings, surroundings]
    exact List.mem_append_left _ (List.mem_cons_of_mem _ (List.mem_append_left _ hmem))
  · rcases hinner with rfl | ⟨b, hb, hmemb, hopener⟩
    · exact ⟨(o, opening), rfl, by simp [allTokens, tokens], hopening⟩
    · exact ⟨b, hb, by simp [allTokens, tokens, hmemb], hopener⟩

theorem isStrayOf_of_mem_allStrays (outlines : List Outline) :
    ∀ around : Option (Opener × Token), AllFit (around.map fun b => b.1.kind) outlines →
      ∀ d ∈ allStrays (around.map asOpen) outlines, IsStrayOf around outlines d := by
  induction outlines using list_induction with
  | nil =>
    intro around _ d hd
    simp [allStrays] at hd
  | leaf t rest ih =>
    intro around hfit d hd
    obtain ⟨⟨_, hclose⟩, hrest, _⟩ := hfit
    rw [allStrays, List.mem_append] at hd
    rcases hd with hd | hd
    · rw [strays] at hd
      split at hd
      · rename_i kind hword
        rw [List.mem_singleton] at hd
        exact ⟨t, kind, around, by simp [allSurroundings, surroundings], hword, hclose kind hword, hd, .inl rfl⟩
      · simp at hd
    · exact (ih around hrest d hd).cons _
  | block o opening body closing rest ihbody ihrest =>
    intro around hfit d hd
    obtain ⟨⟨hopening, hbody, _⟩, hrest, _⟩ := hfit
    rw [allStrays, List.mem_append] at hd
    rcases hd with hd | hd
    · -- in the body the block itself is the one around
      exact (ihbody (some (o, opening)) hbody d hd).block hopening around closing rest
    · exact (ihrest around hrest d hd).cons _

/-- An open block is opened by a token of the outlines. -/
theorem opener?_of_mem_allUnclosed (outlines : List Outline) :
    ∀ inner, AllFit inner outlines → ∀ b ∈ allUnclosed outlines, b.2 ∈ allTokens outlines ∧ b.2.opener? = some b.1 := by
  induction outlines using list_induction with
  | nil =>
    intro inner _ b hb
    simp [allUnclosed] at hb
  | leaf t rest ih =>
    intro inner hfit b hb
    obtain ⟨hmem, hopener⟩ := ih inner hfit.2.1 b hb
    exact ⟨List.mem_append_right _ hmem, hopener⟩
  | block o opening body closing rest ihbody ihrest =>
    intro inner hfit b hb
    obtain ⟨⟨hopening, hbody, _⟩, hrest, _⟩ := hfit
    rw [allUnclosed, unclosed, List.mem_append, List.mem_append] at hb
    rcases hb with (hb | hb) | hb
    · split at hb
      · simp at hb
      · rw [List.mem_singleton] at hb
        subst hb
        exact ⟨by simp [allTokens, tokens], hopening⟩
    · obtain ⟨hmem, hopener⟩ := ihbody _ hbody b hb
      exact ⟨by simp [allTokens, tokens, hmem], hopener⟩
    · obtain ⟨hmem, hopener⟩ := ihrest inner hrest b hb
      exact ⟨List.mem_append_right _ hmem, hopener⟩

end Outline

/-! ## What a diagnostic reports -/

namespace Diagnostic

open Outline in
/-- What a diagnostic of a source reports: a brace without a partner, or a block tag that has none, with its position;
for a closing tag in a block of the other kind also the tag that opened this block, with its own position. -/
inductive IsAbout (source : Text) (outlines : List Outline) : Diagnostic → Prop
  | unclosedBrace {p : Position} : p.IsIn source → source[p.offset]? = some CodeUnit.openBrace →
      p.offset ∈ (Pairing.ofSource source).unclosed → IsAbout source outlines (unclosedBrace p)
  | unopenedBrace {p : Position} : p.IsIn source → source[p.offset]? = some CodeUnit.closeBrace →
      p.offset ∈ (Pairing.ofSource source).unopened → IsAbout source outlines (unopenedBrace p)
  | strayClose {t : Token} {kind : BlockKind} : (t, none) ∈ allSurroundings none outlines →
      t.keyword? = some (.closes kind) → IsAbout source outlines (strayClose kind t.position)
  | crossedClose {t opening : Token} {kind inner : BlockKind} :
      (t, some opening) ∈ allSurroundings none outlines → t.keyword? = some (.closes kind) →
      opening ∈ allTokens outlines → opening.keyword? = some (.opens inner) → inner ≠ kind →
      IsAbout source outlines (crossedClose kind t.position inner opening.position)
  | unclosedBlock {o : Opener} {opening : Token} : (o, opening) ∈ allUnclosed outlines → opening ∈ allTokens outlines →
      opening.keyword? = some (.opens o.kind) → IsAbout source outlines (unclosedBlock o.kind opening.position)

section IsAbout

variable {source : Text} {outlines : List Outline}

/-- The diagnostics of the braces are about the braces without a partner. -/
theorem isAbout_ofDefect {d : BraceDefect} (h : d ∈ (Tokens.ofSource source).defects) :
    (ofDefect d).IsAbout source outlines := by
  obtain ⟨hin, hunit⟩ := Tokens.isIn_of_mem_defects h
  -- the defects are those of the matching on a stack
  have hmatched : (d.kind, d.position.offset) ∈
      (Tokens.ofSource source).defects.map fun d => (d.kind, d.position.offset) :=
    List.mem_map_of_mem (f := fun d : BraceDefect => (d.kind, d.position.offset)) h
  have hdefects := Pairing.defects_scan .start source
  rw [Tokens.ofSource, hdefects, List.mem_append, List.mem_map, List.mem_map] at hmatched
  rcases hmatched with ⟨o, ho, heq⟩ | ⟨o, ho, heq⟩
  · simp only [Prod.mk.injEq] at heq
    rw [ofDefect, ← heq.1]
    rw [← heq.1] at hunit
    rw [heq.2] at ho
    exact .unopenedBrace hin hunit ho
  · simp only [Prod.mk.injEq] at heq
    rw [ofDefect, ← heq.1]
    rw [← heq.1] at hunit
    rw [heq.2] at ho
    exact .unclosedBrace hin hunit (List.mem_of_mem_head? (Option.mem_toList.1 ho))

open Outline in
/-- The diagnostics of the block tags are about tags without a partner. -/
theorem isAbout_of_mem_ofBlocks (hfit : AllFit none outlines) {d : Diagnostic} (h : d ∈ ofBlocks (allTokens outlines)) :
    d.IsAbout source outlines := by
  rw [ofBlocks_allTokens hfit, List.mem_append] at h
  rcases h with h | h
  · obtain ⟨t, kind, inner, hmem, hword, hne, rfl, hinner⟩ := isStrayOf_of_mem_allStrays outlines none hfit d h
    rcases hinner with rfl | ⟨b, rfl, hmemb, hopener⟩
    · exact .strayClose hmem hword
    · have hopens := Token.keyword?_eq_opens_iff.2 ⟨b.1, hopener, rfl⟩
      exact .crossedClose hmem hword hmemb hopens fun heq => hne (by rw [← heq]; rfl)
  · obtain ⟨b, hb, rfl⟩ := List.mem_map.1 h
    obtain ⟨hmem, hopener⟩ := opener?_of_mem_allUnclosed outlines none hfit b hb
    exact .unclosedBlock hb hmem (Token.keyword?_eq_opens_iff.2 ⟨b.1, hopener, rfl⟩)

end IsAbout

/-! ## What a message prints -/

/-- The positions that a message prints, in its order. -/
def printed : Diagnostic → List Position
  | unclosedBrace p => [p]
  | unopenedBrace p => [p]
  | strayClose _ p => [p]
  | crossedClose _ p _ opened => [p, opened]
  | unclosedBlock _ p => [p]

/-- Whether a text has the lines and columns of these positions, in this order, and no digits besides. -/
inductive Prints : List Position → Text → Prop
  | nil : Prints [] []
  | word {ps : List Position} {word rest : Text} : (∀ u ∈ word, u.isDigit = false) → Prints ps rest →
      Prints ps (word ++ rest)
  | place {ps : List Position} {rest : Text} (p : Position) : Prints ps rest →
      Prints (p :: ps) (Text.concat ["line ", Text.ofNat p.line, ", column ", Text.ofNat p.column] ++ rest)

/-- A word without digits; that it has none can be computed. -/
theorem Prints.letters {ps : List Position} {word rest : Text} (h : word.all fun u => !u.isDigit)
    (hrest : Prints ps rest) : Prints ps (word ++ rest) := by
  refine .word ?_ hrest
  intro u hu
  have hnot := List.all_eq_true.1 h u hu
  rwa [Bool.not_eq_true'] at hnot

theorem Prints.openWord (kind : BlockKind) {ps : List Position} {rest : Text} (hrest : Prints ps rest) :
    Prints ps (inBraces kind.openWord ++ rest) := by
  cases kind with
  | cond => exact .letters (by decide) hrest
  | loop => exact .letters (by decide) hrest

theorem Prints.closeWord (kind : BlockKind) {ps : List Position} {rest : Text} (hrest : Prints ps rest) :
    Prints ps (inBraces kind.closeWord ++ rest) := by
  cases kind with
  | cond => exact .letters (by decide) hrest
  | loop => exact .letters (by decide) hrest

/-- A message prints its positions and nothing else in digits. -/
theorem prints_message (d : Diagnostic) : Prints d.printed d.message := by
  cases d with
  | unclosedBrace p =>
    exact .letters (by decide) (.letters (by decide) (.letters (by decide) (.place p (.letters (by decide)
      (.letters (by decide) (.letters (by decide) .nil))))))
  | unopenedBrace p =>
    exact .letters (by decide) (.letters (by decide) (.letters (by decide) (.place p (.letters (by decide)
      (.letters (by decide) (.letters (by decide) .nil))))))
  | strayClose kind p =>
    exact .letters (by decide) (.closeWord kind (.letters (by decide) (.place p (.letters (by decide)
      (.openWord kind (.letters (by decide) .nil))))))
  | crossedClose kind p inner opened =>
    exact .letters (by decide) (.closeWord kind (.letters (by decide) (.place p (.letters (by decide)
      (.closeWord inner (.letters (by decide) (.openWord inner
        (.letters (by decide) (.place opened .nil)))))))))
  | unclosedBlock kind p =>
    exact .letters (by decide) (.openWord kind (.letters (by decide) (.place p (.letters (by decide)
      (.closeWord kind .nil)))))

end Diagnostic

/-! ## The whole source -/

/-- Positions are exact. Every token and every defect of a source has the line and column of its offset, and its lexeme
or brace stands there; tokens come one after another, and so do defects. Every message of the check has no numbers but
lines and columns of what it reports: a brace that a stack leaves without a partner, or a block tag without one, with the
tag of the innermost block around it if it closes another kind of block. Which block is around a tag is read off the
outline of the source, in which every token stands once. -/
theorem positions_are_exact (source : Text) :
    (∀ t ∈ (Tokens.ofSource source).tokens,
      t.position.IsIn source ∧ t.lexeme <+: source.drop t.position.offset) ∧
    (∀ d ∈ (Tokens.ofSource source).defects,
      d.position.IsIn source ∧ source[d.position.offset]? = some d.kind.brace) ∧
    (Tokens.ofSource source).tokens.Pairwise (fun a b => a.position.offset < b.position.offset) ∧
    (Tokens.ofSource source).defects.Pairwise (fun a b => a.position.offset < b.position.offset) ∧
    ∃ outlines, Outline.IsOutlineOf outlines source ∧
      (Outline.allSurroundings none outlines).map Prod.fst = (Tokens.ofSource source).tokens ∧
      ∀ message ∈ validate source, ∃ d : Diagnostic, message = d.message ∧ d.IsAbout source outlines ∧
        Diagnostic.Prints d.printed message := by
  refine ⟨?_, fun d => Tokens.isIn_of_mem_defects, Tokens.pairwise_offset_scan .start source,
    Tokens.pairwise_offset_defects .start source, ?_⟩
  · intro t ht
    exact ⟨Tokens.isIn_of_mem_tokens ht, Tokens.lexeme_prefix_drop ht⟩
  · obtain ⟨outlines, houtlines⟩ := Outline.exists_isOutlineOf source
    refine ⟨outlines, houtlines, (Outline.map_fst_allSurroundings outlines none).trans houtlines.tokens_eq, ?_⟩
    intro message hmessage
    obtain ⟨d, hd, rfl⟩ := List.mem_map.1 hmessage
    refine ⟨d, rfl, ?_, d.prints_message⟩
    rcases List.mem_append.1 hd with hd | hd
    · obtain ⟨defect, hdefect, rfl⟩ := List.mem_map.1 hd
      exact Diagnostic.isAbout_ofDefect hdefect
    · rw [← houtlines.tokens_eq] at hd
      exact Diagnostic.isAbout_of_mem_ofBlocks houtlines.fits hd

/-- A tag over two lines, and a brace behind it. -/
example : (Tokens.ofSource "\x7d\n\x7ba\nb\x7dc\x7d").tokens.map Token.position = [⟨0, 1, 1⟩, ⟨2, 2, 1⟩, ⟨7, 3, 3⟩] ∧
    (Tokens.ofSource "\x7d\n\x7ba\nb\x7dc\x7d").defects.map BraceDefect.position = [⟨0, 1, 1⟩, ⟨8, 3, 4⟩] := by
  decide +kernel

end BraceTemplate
