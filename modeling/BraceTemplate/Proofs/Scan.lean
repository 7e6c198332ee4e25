import BraceTemplate.Template.Token
import Mathlib.Data.List.Chain

/-!
# Cutting a source into tokens

`Tokens.scan` restarts at every opening brace with a depth of its own. Here the cut is described without
depths: what stands between the braces of a tag is exactly a balanced text. The equations `scan_tag`,
`scan_unclosed` and `scan_unit` and the induction `scan_induction` are stated with that, and all else
about tokens follows from them:

* `flatMap_lexeme_scan` — the lexemes make up the source again;
* `placed_scan` — every token has the position that its lexeme has in the source;
* `map_bare_scan` — what the tokens are does not depend on where the text begins.
-/

namespace BraceTemplate

/-! ## Positions -/

namespace Position

theorem advance_append (p : Position) (s t : Text) : p.advance (s ++ t) = (p.advance s).advance t := by
  simp [advance]

theorem advance_cons (p : Position) (u : CodeUnit) (t : Text) :
    p.advance (u :: t) = (p.step u).advance t := rfl

@[simp] theorem step_offset (p : Position) (u : CodeUnit) : (p.step u).offset = p.offset + 1 := by
  unfold step
  split <;> rfl

@[simp] theorem advance_offset (p : Position) (t : Text) :
    (p.advance t).offset = p.offset + t.length := by
  induction t generalizing p with
  | nil => rfl
  | cons u t ih =>
    rw [advance_cons, ih, step_offset, List.length_cons]
    omega

/-- A tag has its two braces and its body. -/
theorem advance_tagSource_offset (p : Position) (body : Text) :
    (p.advance (tagSource body)).offset = p.offset + body.length + 2 := by
  rw [advance_offset, List.length_cons, List.length_append, List.length_singleton]
  omega

end Position

/-! ## Balanced texts -/

theorem CodeUnit.closeBrace_ne_openBrace : CodeUnit.closeBrace ≠ CodeUnit.openBrace := by decide

/-- A tag in front of a text, brace by brace. -/
theorem tagSource_append (body rest : Text) :
    tagSource body ++ rest = CodeUnit.openBrace :: (body ++ CodeUnit.closeBrace :: rest) := by simp

/-- A text in which every brace has its partner. -/
inductive Balanced : Text → Prop where
  | nil : Balanced []
  | unit {u : CodeUnit} {rest : Text} (hopen : u ≠ CodeUnit.openBrace)
      (hclose : u ≠ CodeUnit.closeBrace) (hrest : Balanced rest) : Balanced (u :: rest)
  | span {body rest : Text} (hbody : Balanced body) (hrest : Balanced rest) :
      Balanced (tagSource body ++ rest)

/-- A text that is balanced but for a number of closing braces without a partner. -/
inductive BalancedBut : Nat → Text → Prop where
  | zero {t : Text} (h : Balanced t) : BalancedBut 0 t
  | succ {depth : Nat} {t rest : Text} (h : Balanced t) (hrest : BalancedBut depth rest) :
      BalancedBut (depth + 1) (t ++ CodeUnit.closeBrace :: rest)

theorem Balanced.append {s t : Text} (hs : Balanced s) (ht : Balanced t) : Balanced (s ++ t) := by
  induction hs with
  | nil => exact ht
  | unit hopen hclose _ ih => exact .unit hopen hclose ih
  | span hbody _ _ ih =>
    rw [List.append_assoc]
    exact .span hbody ih

theorem Balanced.append_but {depth : Nat} {s t : Text} (hs : Balanced s) (ht : BalancedBut depth t) :
    BalancedBut depth (s ++ t) := by
  cases ht with
  | zero h => exact .zero (hs.append h)
  | succ h hrest =>
    rw [← List.append_assoc]
    exact .succ (hs.append h) hrest

namespace Token

/-- Whether a token is plain text. -/
def isText : Token → Bool
  | text .. => true
  | tag .. => false

/-- Whether two tokens may be neighbours: no text is next to another. -/
def Apart (a b : Token) : Prop :=
  a.isText = false ∨ b.isText = false

end Token

namespace Tokens

/-! ## The end of a tag -/

@[simp] theorem splitTag_openBrace (depth : Nat) (rest : Text) :
    splitTag depth (CodeUnit.openBrace :: rest) =
      (splitTag (depth + 1) rest).map fun (body, after) => (CodeUnit.openBrace :: body, after) := by
  simp [splitTag]

@[simp] theorem splitTag_closeBrace_zero (rest : Text) :
    splitTag 0 (CodeUnit.closeBrace :: rest) = some ([], rest) := by
  simp [splitTag, CodeUnit.closeBrace_ne_openBrace]

@[simp] theorem splitTag_closeBrace_succ (depth : Nat) (rest : Text) :
    splitTag (depth + 1) (CodeUnit.closeBrace :: rest) =
      (splitTag depth rest).map fun (body, after) => (CodeUnit.closeBrace :: body, after) := by
  simp [splitTag, CodeUnit.closeBrace_ne_openBrace]

theorem splitTag_unit {u : CodeUnit} (hopen : u ≠ CodeUnit.openBrace) (hclose : u ≠ CodeUnit.closeBrace)
    (depth : Nat) (rest : Text) :
    splitTag depth (u :: rest) = (splitTag depth rest).map fun (body, after) => (u :: body, after) := by
  simp [splitTag, hopen, hclose]

/-- A body that a unit was put in front of begins with it, and what is left was split off as well. -/
theorem of_map_cons_eq_some {split : Option (Text × Text)} {u : CodeUnit} {body after : Text}
    (h : split.map (fun (b, a) => (u :: b, a)) = some (body, after)) :
    ∃ rest, body = u :: rest ∧ split = some (rest, after) := by
  obtain ⟨⟨b, a⟩, hsplit, heq⟩ := Option.map_eq_some_iff.1 h
  simp only [Prod.mk.injEq] at heq
  exact ⟨b, heq.1.symm, by rw [hsplit, heq.2]⟩

/-- A balanced text is passed over at any depth. -/
theorem splitTag_append {b : Text} (hb : Balanced b) (depth : Nat) (rest : Text) :
    splitTag depth (b ++ rest) = (splitTag depth rest).map fun (body, after) => (b ++ body, after) := by
  induction hb generalizing depth rest with
  | nil => simp
  | @unit u t hopen hclose _ ih =>
    rw [List.cons_append, splitTag_unit hopen hclose, ih, Option.map_map]
    rfl
  | @span body t _ _ ihbody iht =>
    -- the body is passed over one level deeper, and its closing brace comes back to this one
    rw [List.append_assoc, tagSource_append, splitTag_openBrace, ihbody, splitTag_closeBrace_succ, iht,
      Option.map_map, Option.map_map, Option.map_map]
    congr 1
    funext pair
    simp

/-- What is split off at a depth is balanced but for as many closing braces. -/
theorem balancedBut_of_splitTag {depth : Nat} {t body after : Text}
    (h : splitTag depth t = some (body, after)) : BalancedBut depth body := by
  induction t generalizing depth body with
  | nil => simp [splitTag] at h
  | cons u rest ih =>
    by_cases hopen : u = CodeUnit.openBrace
    · subst hopen
      rw [splitTag_openBrace] at h
      obtain ⟨b, rfl, hb⟩ := of_map_cons_eq_some h
      -- the brace that was opened takes the first of the closing braces to itself
      cases ih hb with
      | @succ d t' rest' ht' hrest' =>
        have hspan : Balanced (tagSource t') := by
          simpa using Balanced.span ht' .nil
        simpa using hspan.append_but hrest'
    · by_cases hclose : u = CodeUnit.closeBrace
      · subst hclose
        cases depth with
        | zero =>
          simp only [splitTag_closeBrace_zero, Option.some.injEq, Prod.mk.injEq] at h
          rw [← h.1]
          exact .zero .nil
        | succ d =>
          rw [splitTag_closeBrace_succ] at h
          obtain ⟨b, rfl, hb⟩ := of_map_cons_eq_some h
          -- nothing stands before this brace: it is itself one of those without a partner
          exact .succ (t := []) .nil (ih hb)
      · rw [splitTag_unit hopen hclose] at h
        obtain ⟨b, rfl, hb⟩ := of_map_cons_eq_some h
        exact (Balanced.unit hopen hclose .nil).append_but (ih hb)

/-- A tag ends after the longest balanced text from its opening brace on. -/
theorem splitTag_eq_some_iff {t body after : Text} :
    splitTag 0 t = some (body, after) ↔ Balanced body ∧ t = body ++ CodeUnit.closeBrace :: after := by
  constructor
  · intro h
    refine ⟨?_, eq_of_splitTag h⟩
    cases balancedBut_of_splitTag h with
    | zero hb => exact hb
  · rintro ⟨hb, rfl⟩
    rw [splitTag_append hb]
    simp

/-! ## Equations and induction -/

theorem scan_nil (p : Position) : scan p [] = ⟨[], []⟩ := by
  rw [scan]

theorem scan_tag {body : Text} (hbody : Balanced body) (p : Position) (after : Text) :
    scan p (tagSource body ++ after) =
      ⟨.tag body p :: (scan (p.advance (tagSource body)) after).tokens,
        (scan (p.advance (tagSource body)) after).defects⟩ := by
  have hsplit : splitTag 0 (body ++ CodeUnit.closeBrace :: after) = some (body, after) :=
    splitTag_eq_some_iff.2 ⟨hbody, rfl⟩
  rw [tagSource_append, scan, if_pos rfl]
  split
  · rename_i hnone
    rw [hsplit] at hnone
    simp at hnone
  · rename_i b a hsome
    rw [hsplit] at hsome
    simp only [Option.some.injEq, Prod.mk.injEq] at hsome
    rw [← hsome.1, ← hsome.2]

theorem scan_unclosed {rest : Text} (h : splitTag 0 rest = none) (p : Position) :
    scan p (CodeUnit.openBrace :: rest) =
      ⟨[.text (CodeUnit.openBrace :: rest) p], [⟨.unclosed, p⟩]⟩ := by
  rw [scan, if_pos rfl]
  split
  · rfl
  · rename_i b a hsome
    rw [h] at hsome
    simp at hsome

theorem scan_unit {u : CodeUnit} (h : u ≠ CodeUnit.openBrace) (p : Position) (rest : Text) :
    scan p (u :: rest) =
      ⟨consUnit u p (scan (p.step u) rest).tokens,
        if u = CodeUnit.closeBrace then ⟨.unopened, p⟩ :: (scan (p.step u) rest).defects
        else (scan (p.step u) rest).defects⟩ := by
  rw [scan, if_neg h]

/-- Induction along the cut: the end, an opening brace without a partner, a tag, any other unit. -/
@[elab_as_elim]
theorem scan_induction {motive : Position → Text → Prop} (nil : ∀ p, motive p [])
    (unclosed : ∀ p rest, splitTag 0 rest = none → motive p (CodeUnit.openBrace :: rest))
    (tag : ∀ p body after, Balanced body → motive (p.advance (tagSource body)) after →
      motive p (tagSource body ++ after))
    (unit : ∀ p u rest, u ≠ CodeUnit.openBrace → motive (p.step u) rest → motive p (u :: rest))
    (p : Position) (t : Text) : motive p t := by
  fun_induction scan p t with
  | case1 p => exact nil p
  | case2 p rest h => exact unclosed p rest h
  | case3 p rest body after h _ ih =>
    obtain ⟨hbody, rfl⟩ := splitTag_eq_some_iff.1 h
    simpa using tag p body after hbody ih
  | case4 p u rest h _ ih => exact unit p u rest h ih

/-! ## The lexemes make up the source -/

theorem flatMap_lexeme_consUnit (u : CodeUnit) (p : Position) (ts : List Token) :
    (consUnit u p ts).flatMap Token.lexeme = u :: ts.flatMap Token.lexeme := by
  unfold consUnit
  split <;> simp [Token.lexeme]

/-- Nothing of a source is lost, added or moved. -/
theorem flatMap_lexeme_scan (p : Position) (t : Text) : (scan p t).tokens.flatMap Token.lexeme = t := by
  induction p, t using scan_induction with
  | nil p => simp [scan_nil]
  | unclosed p rest h => simp [scan_unclosed h, Token.lexeme]
  | tag p body after hbody ih =>
    rw [scan_tag hbody, List.flatMap_cons, ih]
    rfl
  | unit p u rest h ih => rw [scan_unit h, flatMap_lexeme_consUnit, ih]

/-! ## Runs of plain text -/

theorem ne_nil_of_mem_consUnit {u : CodeUnit} {p : Position} {ts : List Token}
    (h : ∀ v q, Token.text v q ∈ ts → v ≠ []) :
    ∀ v q, Token.text v q ∈ consUnit u p ts → v ≠ [] := by
  intro v q hmem
  unfold consUnit at hmem
  split at hmem
  · rename_i value r rest
    rcases List.mem_cons.1 hmem with heq | hrest
    · simp only [Token.text.injEq] at heq
      simp [heq.1]
    · exact h v q (List.mem_cons_of_mem _ hrest)
  · rcases List.mem_cons.1 hmem with heq | hrest
    · simp only [Token.text.injEq] at heq
      simp [heq.1]
    · exact h v q hrest

/-- No text is empty. -/
theorem ne_nil_of_mem_scan (p : Position) (t : Text) :
    ∀ v q, Token.text v q ∈ (scan p t).tokens → v ≠ [] := by
  induction p, t using scan_induction with
  | nil p => simp [scan_nil]
  | unclosed p rest h => simp +contextual [scan_unclosed h]
  | tag p body after hbody ih =>
    intro v q hmem
    rw [scan_tag hbody] at hmem
    exact ih v q (by simpa using hmem)
  | unit p u rest h ih =>
    rw [scan_unit h]
    exact ne_nil_of_mem_consUnit ih

theorem isChain_consUnit {u : CodeUnit} {p : Position} {ts : List Token}
    (h : ts.IsChain Token.Apart) : (consUnit u p ts).IsChain Token.Apart := by
  rcases ts with _ | ⟨_ | _, rest⟩
  · exact .singleton _
  · -- the text only grows
    exact h.cons_of_imp fun c hc => by simpa [Token.Apart, Token.isText] using hc
  · exact .cons_cons (Or.inr rfl) h

/-- No two texts are next to each other. -/
theorem isChain_scan (p : Position) (t : Text) : (scan p t).tokens.IsChain Token.Apart := by
  induction p, t using scan_induction with
  | nil p => simp [scan_nil]
  | unclosed p rest h => simp [scan_unclosed h]
  | tag p body after hbody ih =>
    rw [scan_tag hbody]
    rcases hlater : (scan (p.advance (tagSource body)) after).tokens with _ | ⟨t, later⟩
    · exact .singleton _
    · rw [hlater] at ih
      exact .cons_cons (Or.inl rfl) ih
  | unit p u rest h ih =>
    rw [scan_unit h]
    exact isChain_consUnit ih

/-! ## Every token is where its lexeme is -/

/-- The tokens stand one after another from a position on. -/
def Placed (p : Position) : List Token → Prop
  | [] => True
  | t :: rest => t.position = p ∧ Placed (p.advance t.lexeme) rest

theorem placed_consUnit {u : CodeUnit} {p : Position} {ts : List Token} (h : Placed (p.step u) ts) :
    Placed p (consUnit u p ts) := by
  unfold consUnit
  split
  · exact ⟨rfl, h.2⟩
  · exact ⟨rfl, h⟩

theorem placed_scan (p : Position) (t : Text) : Placed p (scan p t).tokens := by
  induction p, t using scan_induction with
  | nil p => simp [scan_nil, Placed]
  | unclosed p rest h => simp [scan_unclosed h, Placed, Token.position]
  | tag p body after hbody ih =>
    rw [scan_tag hbody]
    exact ⟨rfl, ih⟩
  | unit p u rest h ih =>
    rw [scan_unit h]
    exact placed_consUnit ih

/-- A placed token begins after the lexemes of the tokens before it. -/
theorem Placed.position_eq {p : Position} {before after : List Token} {t : Token}
    (h : Placed p (before ++ t :: after)) :
    t.position = p.advance (before.flatMap Token.lexeme) := by
  induction before generalizing p with
  | nil => exact h.1
  | cons b before ih =>
    rw [List.flatMap_cons, Position.advance_append]
    exact ih h.2

theorem Placed.offset_le {p : Position} {ts : List Token} (h : Placed p ts) {t : Token} (ht : t ∈ ts) :
    p.offset ≤ t.position.offset := by
  obtain ⟨before, after, rfl⟩ := List.append_of_mem ht
  rw [h.position_eq, Position.advance_offset]
  omega

/-- Placed tokens that are not empty begin one after another. -/
theorem Placed.pairwise {p : Position} {ts : List Token} (h : Placed p ts)
    (hne : ∀ t ∈ ts, t.lexeme ≠ []) :
    ts.Pairwise fun a b => a.position.offset < b.position.offset := by
  induction ts generalizing p with
  | nil => exact .nil
  | cons t rest ih =>
    have hlater := ih h.2 fun t' ht' => hne t' (List.mem_cons_of_mem _ ht')
    refine .cons (fun b hb => ?_) hlater
    have hle := h.2.offset_le hb
    have hlength := List.length_pos_iff.2 (hne t List.mem_cons_self)
    rw [Position.advance_offset] at hle
    rw [h.1]
    omega

theorem lexeme_ne_nil_of_mem_scan {p : Position} {t : Text} {token : Token}
    (h : token ∈ (scan p t).tokens) : token.lexeme ≠ [] := by
  cases token with
  | text v q => exact ne_nil_of_mem_scan p t v q h
  | tag body q => simp [Token.lexeme]

/-- The tokens of a source begin one after another. -/
theorem pairwise_offset_scan (p : Position) (t : Text) :
    (scan p t).tokens.Pairwise fun a b => a.position.offset < b.position.offset :=
  (placed_scan p t).pairwise fun _ => lexeme_ne_nil_of_mem_scan

/-- The lexeme of a token stands in the source at the position of the token. -/
theorem lexeme_prefix_drop {source : Text} {token : Token} (h : token ∈ (ofSource source).tokens) :
    token.lexeme <+: source.drop token.position.offset := by
  obtain ⟨before, after, hts⟩ := List.append_of_mem h
  have hsource := flatMap_lexeme_scan .start source
  have hplaced := placed_scan .start source
  rw [ofSource] at hts
  rw [hts] at hsource hplaced
  rw [List.flatMap_append, List.flatMap_cons] at hsource
  -- to drop up to the token is to drop the lexemes before it
  have hoffset : token.position.offset = (before.flatMap Token.lexeme).length := by
    rw [hplaced.position_eq, Position.advance_offset]
    exact Nat.zero_add _
  rw [hoffset, ← hsource, List.drop_left]
  exact List.prefix_append _ _

/-! ## What the tokens are does not depend on where the text begins -/

/-- A token without its position. -/
def bare : Token → Token
  | .text value _ => .text value .start
  | .tag body _ => .tag body .start

theorem map_bare_consUnit (u : CodeUnit) (p q : Position) {ts us : List Token}
    (h : ts.map bare = us.map bare) : (consUnit u p ts).map bare = (consUnit u q us).map bare := by
  rcases ts with _ | ⟨_ | _, ts⟩ <;> rcases us with _ | ⟨_ | _, us⟩ <;>
    simp_all [consUnit, bare]

theorem map_bare_scan (p q : Position) (t : Text) :
    (scan p t).tokens.map bare = (scan q t).tokens.map bare := by
  induction p, t using scan_induction generalizing q with
  | nil p => simp [scan_nil]
  | unclosed p rest h => simp [scan_unclosed h, bare]
  | tag p body after hbody ih =>
    rw [scan_tag hbody, scan_tag hbody, List.map_cons, List.map_cons, ih (q.advance (tagSource body))]
    rfl
  | unit p u rest h ih =>
    rw [scan_unit h, scan_unit h]
    exact map_bare_consUnit u p q (ih (q.step u))

end Tokens

end BraceTemplate
