import BraceTemplate.Proofs.Scan

/-!
# Matching braces

The cut into tags restarts at every opening brace and gives up at the first one without a partner. Here it
is compared with the matching that everybody knows: one pass over the whole source with the open braces
on a stack.

* `filterMap_span_scan` — the tags are the outermost pairs before the first brace that stays open;
* `defects_scan` — the defects are the braces without a partner, but of those that stay open only the
  first;
* `tokens_match_braces` — both, with the shape of the tokens, for a whole source.
-/

namespace BraceTemplate

/-- The braces of a text, by offset: the pairs in the order of their closing braces, and the braces
without a partner in source order. -/
structure Pairing where
  pairs : List (Nat × Nat)
  unopened : List Nat
  unclosed : List Nat
deriving DecidableEq, Repr

namespace Pairing

/-- One pass over a text that begins at an offset; the stack holds the braces that are open. -/
def pass (offset : Nat) (stack : List Nat) : Text → Pairing
  | [] => ⟨[], [], stack.reverse⟩
  | u :: rest =>
    if u = CodeUnit.openBrace then pass (offset + 1) (offset :: stack) rest
    else if u = CodeUnit.closeBrace then
      match stack with
      | [] =>
        let later := pass (offset + 1) [] rest
        { later with unopened := offset :: later.unopened }
      | opening :: outer =>
        let later := pass (offset + 1) outer rest
        { later with pairs := (opening, offset) :: later.pairs }
    else pass (offset + 1) stack rest

/-- The braces of a source. -/
def ofSource (source : Text) : Pairing :=
  pass 0 [] source

/-- One pair stands inside another. -/
abbrev Encloses (outer inner : Nat × Nat) : Prop :=
  outer.1 < inner.1 ∧ inner.2 < outer.2

/-- The pairs that stand inside no other. -/
def outermost (pairs : List (Nat × Nat)) : List (Nat × Nat) :=
  pairs.filter fun pair => ∀ other ∈ pairs, ¬Encloses other pair

/-- The outermost pairs before the first brace that stays open. -/
def tags (b : Pairing) : List (Nat × Nat) :=
  (outermost b.pairs).filter fun pair => b.unclosed.head?.all fun first => pair.2 < first

/-- Puts pairs before those of a pairing. -/
def before (pairs : List (Nat × Nat)) (b : Pairing) : Pairing :=
  { b with pairs := pairs ++ b.pairs }

/-! ## The pass -/

section Pass

variable (offset : Nat) (stack : List Nat) (rest : Text)

@[simp] theorem pass_openBrace :
    pass offset stack (CodeUnit.openBrace :: rest) = pass (offset + 1) (offset :: stack) rest := by
  simp [pass]

@[simp] theorem pass_closeBrace_nil :
    pass offset [] (CodeUnit.closeBrace :: rest) =
      { pass (offset + 1) [] rest with
        unopened := offset :: (pass (offset + 1) [] rest).unopened } := by
  simp [pass, CodeUnit.closeBrace_ne_openBrace]

@[simp] theorem pass_closeBrace_cons (opening : Nat) :
    pass offset (opening :: stack) (CodeUnit.closeBrace :: rest) =
      (pass (offset + 1) stack rest).before [(opening, offset)] := by
  simp [pass, before, CodeUnit.closeBrace_ne_openBrace]

theorem pass_unit {u : CodeUnit} (hopen : u ≠ CodeUnit.openBrace) (hclose : u ≠ CodeUnit.closeBrace) :
    pass offset stack (u :: rest) = pass (offset + 1) stack rest := by
  simp [pass, hopen, hclose]

end Pass

/-- A balanced text leaves the stack as it is, and its pairs lie in it. -/
theorem pass_balanced {b : Text} (hb : Balanced b) (offset : Nat) :
    ∃ inside, (∀ q ∈ inside, offset ≤ q.1 ∧ q.2 < offset + b.length) ∧
      ∀ stack rest, pass offset stack (b ++ rest) =
        (pass (offset + b.length) stack rest).before inside := by
  induction hb generalizing offset with
  | nil => exact ⟨[], by simp, fun stack rest => rfl⟩
  | @unit u t hopen hclose _ ih =>
    obtain ⟨inside, hinside, hpass⟩ := ih (offset + 1)
    refine ⟨inside, fun q hq => ?_, fun stack rest => ?_⟩
    · have := hinside q hq
      simp only [List.length_cons]
      omega
    · rw [List.cons_append, pass_unit _ _ _ hopen hclose, hpass, List.length_cons]
      congr 2
      omega
  | @span body t _ _ ihbody iht =>
    -- the body leaves its opening brace on top, where its closing brace finds it
    obtain ⟨inside, hinside, hbody⟩ := ihbody (offset + 1)
    obtain ⟨later, hlater, ht⟩ := iht (offset + (tagSource body).length)
    have hlength : (tagSource body).length = body.length + 2 := by simp
    refine ⟨inside ++ (offset, offset + 1 + body.length) :: later, fun q hq => ?_, fun stack rest => ?_⟩
    · rw [List.length_append]
      rcases List.mem_append.1 hq with hq | hq
      · have := hinside q hq
        omega
      · rcases List.mem_cons.1 hq with rfl | hq
        · simp only [hlength]
          omega
        · have := hlater q hq
          omega
    · have hoffset : offset + 1 + body.length + 1 = offset + (tagSource body).length := by
        rw [hlength]
        omega
      rw [List.append_assoc, tagSource_append, pass_openBrace, hbody, pass_closeBrace_cons, hoffset, ht,
        List.length_append, ← Nat.add_assoc]
      simp [before]

/-- The pairs of a tag: those inside it, and its own braces around them. -/
theorem pass_tag {body : Text} (hbody : Balanced body) (offset : Nat) :
    ∃ inside, (∀ q ∈ inside, offset < q.1 ∧ q.2 < offset + body.length + 1) ∧
      ∀ stack rest, pass offset stack (tagSource body ++ rest) =
        (pass (offset + body.length + 2) stack rest).before
          (inside ++ [(offset, offset + body.length + 1)]) := by
  obtain ⟨inside, hinside, hpass⟩ := pass_balanced hbody (offset + 1)
  refine ⟨inside, fun q hq => ?_, fun stack rest => ?_⟩
  · have := hinside q hq
    omega
  · have hoffset : offset + 1 + body.length = offset + body.length + 1 := by omega
    rw [tagSource_append, pass_openBrace, hpass, pass_closeBrace_cons, hoffset]
    simp [before]

/-- All that a pairing holds is at `low` or behind it, and its closing braces are at `offset` or behind
it. -/
structure Behind (low offset : Nat) (b : Pairing) : Prop where
  opening : ∀ q ∈ b.pairs, low ≤ q.1
  closing : ∀ q ∈ b.pairs, offset ≤ q.2
  unclosed : ∀ o ∈ b.unclosed, low ≤ o

theorem Behind.mono {low offset earlier : Nat} {b : Pairing} (h : Behind low offset b)
    (hle : earlier ≤ offset) : Behind low earlier b :=
  ⟨h.opening, fun q hq => hle.trans (h.closing q hq), h.unclosed⟩

theorem Behind.before {low offset : Nat} {b : Pairing} {q : Nat × Nat} (h : Behind low offset b)
    (hopening : low ≤ q.1) (hclosing : offset ≤ q.2) : Behind low offset (b.before [q]) := by
  refine ⟨fun r hr => ?_, fun r hr => ?_, h.unclosed⟩
  · rcases List.mem_cons.1 hr with rfl | hr
    · exact hopening
    · exact h.opening r hr
  · rcases List.mem_cons.1 hr with rfl | hr
    · exact hclosing
    · exact h.closing r hr

/-- Whatever the pass finds lies behind its start, or behind what was on the stack. -/
theorem behind_pass {low : Nat} (t : Text) : ∀ (offset : Nat) (stack : List Nat), low ≤ offset →
    (∀ o ∈ stack, low ≤ o) → Behind low offset (pass offset stack t) := by
  induction t with
  | nil =>
    intro offset stack _ hstack
    exact ⟨by simp [pass], by simp [pass], by simpa [pass] using hstack⟩
  | cons u rest ih =>
    intro offset stack hlow hstack
    have hnext : low ≤ offset + 1 := Nat.le_succ_of_le hlow
    by_cases hopen : u = CodeUnit.openBrace
    · subst hopen
      rw [pass_openBrace]
      exact (ih _ _ hnext (List.forall_mem_cons.2 ⟨hlow, hstack⟩)).mono (Nat.le_succ _)
    · by_cases hclose : u = CodeUnit.closeBrace
      · subst hclose
        rcases stack with _ | ⟨opening, outer⟩
        · have hlater := (ih _ [] hnext hstack).mono (Nat.le_succ _)
          rw [pass_closeBrace_nil]
          exact ⟨hlater.opening, hlater.closing, hlater.unclosed⟩
        · obtain ⟨hopening, houter⟩ := List.forall_mem_cons.1 hstack
          rw [pass_closeBrace_cons]
          exact ((ih _ outer hnext houter).mono (Nat.le_succ _)).before hopening (Nat.le_refl _)
      · rw [pass_unit _ _ _ hopen hclose]
        exact (ih _ stack hnext hstack).mono (Nat.le_succ _)

/-- Where a tag does not end, its brace stays on the stack: it is never closed, and all closing braces
after it have a partner. -/
theorem pass_of_splitTag_none {t : Text} : ∀ {depth : Nat} (offset : Nat) (inner : List Nat)
    (opening : Nat) (outer : List Nat), Tokens.splitTag depth t = none → inner.length = depth →
      (pass offset (inner ++ opening :: outer) t).unopened = [] ∧
        ∃ more, (pass offset (inner ++ opening :: outer) t).unclosed =
          outer.reverse ++ opening :: more := by
  -- above the brace of the tag are those opened after it, as many as the depth says
  induction t with
  | nil =>
    intro depth offset inner opening outer _ _
    exact ⟨rfl, inner.reverse, by simp [pass]⟩
  | cons u rest ih =>
    intro depth offset inner opening outer hnone hdepth
    by_cases hopen : u = CodeUnit.openBrace
    · subst hopen
      rw [Tokens.splitTag_openBrace, Option.map_eq_none_iff] at hnone
      rw [pass_openBrace]
      exact ih (offset + 1) (offset :: inner) opening outer hnone (by simp [hdepth])
    · by_cases hclose : u = CodeUnit.closeBrace
      · subst hclose
        rcases inner with _ | ⟨i, inner⟩
        · simp only [List.length_nil] at hdepth
          subst hdepth
          simp at hnone
        · simp only [List.length_cons] at hdepth
          subst hdepth
          rw [Tokens.splitTag_closeBrace_succ, Option.map_eq_none_iff] at hnone
          rw [List.cons_append, pass_closeBrace_cons]
          exact ih (offset + 1) inner opening outer hnone rfl
      · rw [Tokens.splitTag_unit hopen hclose, Option.map_eq_none_iff] at hnone
        rw [pass_unit _ _ _ hopen hclose]
        exact ih (offset + 1) inner opening outer hnone hdepth

/-! ## Outermost pairs -/

/-- Pairs inside another one are not outermost, and pairs behind it do not depend on it. -/
theorem outermost_append_cons {inside later : List (Nat × Nat)} {q : Nat × Nat}
    (hinside : ∀ i ∈ inside, Encloses q i) (hlater : ∀ l ∈ later, q.2 < l.1 ∧ q.2 < l.2)
    (hq : q.1 < q.2) : outermost (inside ++ q :: later) = q :: outermost later := by
  unfold outermost
  rw [List.filter_append, List.filter_cons]
  have hnone :
      inside.filter (fun pair => ∀ other ∈ inside ++ q :: later, ¬Encloses other pair) = [] := by
    rw [List.filter_eq_nil_iff]
    intro i hi hall
    have hout := of_decide_eq_true hall q (by simp)
    exact hout (hinside i hi)
  -- what comes before the pair is inside it, and what comes after begins behind it
  have hself : ∀ other ∈ inside ++ q :: later, ¬Encloses other q := by
    intro other hother henc
    rcases List.mem_append.1 hother with hi | hrest
    · have := hinside other hi
      omega
    · rcases List.mem_cons.1 hrest with rfl | hl
      · omega
      · have := hlater other hl
        omega
  have hrest : later.filter (fun pair => ∀ other ∈ inside ++ q :: later, ¬Encloses other pair) =
      later.filter fun pair => ∀ other ∈ later, ¬Encloses other pair := by
    refine List.filter_congr fun l hl => ?_
    have hbehind := hlater l hl
    rw [decide_eq_decide]
    constructor
    · intro h other hother
      exact h other (by simp [hother])
    · intro h other hother henc
      rcases List.mem_append.1 hother with hi | hother
      · have := hinside other hi
        omega
      · rcases List.mem_cons.1 hother with rfl | hl'
        · omega
        · exact h other hl' henc
  rw [hnone, if_pos (decide_eq_true hself), hrest, List.nil_append]

/-! ## Tags and defects -/

/-- The braces of a tag, by offset. -/
def span? : Token → Option (Nat × Nat)
  | .text .. => none
  | .tag body p => some (p.offset, p.offset + body.length + 1)

theorem filterMap_span_consUnit (u : CodeUnit) (p : Position) (ts : List Token) :
    (Tokens.consUnit u p ts).filterMap span? = ts.filterMap span? := by
  unfold Tokens.consUnit
  split <;> simp [List.filterMap_cons, span?]

/-- Before the first brace that stays open, the tags are the outermost pairs. -/
theorem filterMap_span_scan (p : Position) (t : Text) :
    (Tokens.scan p t).tokens.filterMap span? = (pass p.offset [] t).tags := by
  induction p, t using Tokens.scan_induction with
  | nil p => simp [Tokens.scan_nil, pass, tags, outermost]
  | unclosed p rest h =>
    -- every pair is behind the brace that stays open
    obtain ⟨_, more, hmore⟩ := pass_of_splitTag_none (p.offset + 1) [] p.offset [] h rfl
    have hbehind : Behind p.offset (p.offset + 1) (pass (p.offset + 1) [p.offset] rest) :=
      behind_pass rest _ _ (Nat.le_succ _) (by simp)
    rw [List.nil_append] at hmore
    rw [Tokens.scan_unclosed h, pass_openBrace, tags, hmore]
    symm
    rw [List.filterMap_cons, span?, List.filterMap_nil, List.filter_eq_nil_iff]
    intro q hq
    have hclosing := hbehind.closing q (List.mem_of_mem_filter hq)
    simp only [List.reverse_nil, List.nil_append, List.head?_cons, Option.all_some, decide_eq_true_eq]
    omega
  | tag p body after hbody ih =>
    obtain ⟨inside, hinside, hpass⟩ := pass_tag hbody p.offset
    have hoffset := p.advance_tagSource_offset body
    have hbehind : Behind (p.offset + body.length + 2) (p.offset + body.length + 2)
        (pass (p.offset + body.length + 2) [] after) :=
      behind_pass after _ _ (Nat.le_refl _) (by simp)
    rw [hoffset] at ih
    rw [Tokens.scan_tag hbody, List.filterMap_cons, ih, hpass]
    generalize pass (p.offset + body.length + 2) [] after = later at hbehind
    have hout : outermost (inside ++ (p.offset, p.offset + body.length + 1) :: later.pairs) =
        (p.offset, p.offset + body.length + 1) :: outermost later.pairs := by
      refine outermost_append_cons (fun i hi => hinside i hi) (fun l hl => ?_) ?_
      · have hopening := hbehind.opening l hl
        have hclosing := hbehind.closing l hl
        exact ⟨by omega, by omega⟩
      · exact Nat.lt_succ_of_le (Nat.le_add_right _ _)
    -- a brace that stays open does so behind the tag
    have hfirst : later.unclosed.head?.all
        (fun first => decide (p.offset + body.length + 1 < first)) = true := by
      rcases hhead : later.unclosed with _ | ⟨first, more⟩
      · rfl
      · have hopening := hbehind.unclosed first (by simp [hhead])
        exact decide_eq_true (by omega)
    simp [tags, before, hout, span?, hfirst]
  | unit p u rest h ih =>
    rw [Tokens.scan_unit h, filterMap_span_consUnit, ih, Position.step_offset]
    by_cases hclose : u = CodeUnit.closeBrace
    · subst hclose
      rw [pass_closeBrace_nil]
      rfl
    · rw [pass_unit _ _ _ h hclose]

/-- The defects are the closing braces without a partner, and the first opening one. -/
theorem defects_scan (p : Position) (t : Text) :
    (Tokens.scan p t).defects.map (fun d => (d.kind, d.position.offset)) =
      (pass p.offset [] t).unopened.map (BraceDefect.Kind.unopened, ·) ++
        (pass p.offset [] t).unclosed.head?.toList.map (BraceDefect.Kind.unclosed, ·) := by
  induction p, t using Tokens.scan_induction with
  | nil p => simp [Tokens.scan_nil, pass]
  | unclosed p rest h =>
    obtain ⟨hnone, more, hmore⟩ := pass_of_splitTag_none (p.offset + 1) [] p.offset [] h rfl
    rw [List.nil_append] at hnone hmore
    rw [Tokens.scan_unclosed h, pass_openBrace, hnone, hmore]
    simp
  | tag p body after hbody ih =>
    obtain ⟨inside, _, hpass⟩ := pass_tag hbody p.offset
    have hoffset := p.advance_tagSource_offset body
    rw [Tokens.scan_tag hbody, hpass, ih, hoffset]
    rfl
  | unit p u rest h ih =>
    rw [Tokens.scan_unit h]
    rw [Position.step_offset] at ih
    by_cases hclose : u = CodeUnit.closeBrace
    · subst hclose
      rw [pass_closeBrace_nil, if_pos rfl, List.map_cons, ih]
      rfl
    · rw [pass_unit _ _ _ h hclose, if_neg hclose, ih]

end Pairing

/-! ## Balanced sources -/

/-- A text is cut without a defect exactly if it is balanced. -/
theorem defects_scan_eq_nil_iff (p : Position) (t : Text) :
    (Tokens.scan p t).defects = [] ↔ Balanced t := by
  constructor
  · intro h
    induction p, t using Tokens.scan_induction with
    | nil p => exact .nil
    | unclosed p rest hnone =>
      rw [Tokens.scan_unclosed hnone] at h
      simp at h
    | tag p body after hbody ih =>
      rw [Tokens.scan_tag hbody] at h
      exact .span hbody (ih h)
    | unit p u rest hopen ih =>
      rw [Tokens.scan_unit hopen] at h
      by_cases hclose : u = CodeUnit.closeBrace
      · simp [hclose] at h
      · exact .unit hopen hclose (ih (by simpa [hclose] using h))
  · intro h
    induction h generalizing p with
    | nil => simp [Tokens.scan_nil]
    | unit hopen hclose _ ih => simp [Tokens.scan_unit hopen, hclose, ih]
    | span hbody _ _ ih =>
      rw [Tokens.scan_tag hbody]
      exact ih _

/-! ## The whole source -/

/-- Cutting a source loses nothing and agrees with matching its braces on a stack: the lexemes make up the
source, each where its token says; texts are not empty and never neighbours; the tags are the outermost
pairs before the first brace that stays open; the defects are the closing braces without a partner and
then the first brace that stays open; and there are none exactly if the source is balanced. -/
theorem tokens_match_braces (source : Text) :
    (Tokens.ofSource source).tokens.flatMap Token.lexeme = source ∧
    (∀ t ∈ (Tokens.ofSource source).tokens, t.lexeme <+: source.drop t.position.offset) ∧
    (∀ v p, Token.text v p ∈ (Tokens.ofSource source).tokens → v ≠ []) ∧
    (Tokens.ofSource source).tokens.IsChain Token.Apart ∧
    (Tokens.ofSource source).tokens.filterMap Pairing.span? = (Pairing.ofSource source).tags ∧
    (Tokens.ofSource source).defects.map (fun d => (d.kind, d.position.offset)) =
      (Pairing.ofSource source).unopened.map (BraceDefect.Kind.unopened, ·) ++
        (Pairing.ofSource source).unclosed.head?.toList.map (BraceDefect.Kind.unclosed, ·) ∧
    ((Tokens.ofSource source).defects = [] ↔ Balanced source) :=
  ⟨Tokens.flatMap_lexeme_scan .start source, fun _ => Tokens.lexeme_prefix_drop,
    Tokens.ne_nil_of_mem_scan .start source, Tokens.isChain_scan .start source,
    Pairing.filterMap_span_scan .start source, Pairing.defects_scan .start source,
    defects_scan_eq_nil_iff .start source⟩

/-- Of the four pairs, one is inside another and one behind the brace that stays open. -/
example : Pairing.ofSource "a{b{c}}\x7d{d}\x7b{e}" =
      ⟨[(3, 5), (1, 6), (8, 10), (12, 14)], [7], [11]⟩ ∧
    (Pairing.ofSource "a{b{c}}\x7d{d}\x7b{e}").tags = [(1, 6), (8, 10)] := by
  decide

end BraceTemplate
