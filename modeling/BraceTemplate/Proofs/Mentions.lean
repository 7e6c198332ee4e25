import BraceTemplate.Proofs.Concatenation
import BraceTemplate.Proofs.Variables
import BraceTemplate.Proofs.WellFormed

/-!
# Where names come from

The names of a source are collected by one pass over its tree. What the tree mentions is said here by rules,
one for each place where a path may stand, and no place is forgotten by the pass:

* `Template.mentions_iff` — the paths that a template mentions are those that the pass meets;
* `Template.ofSource_append` — the template of two sources in a row, up to the text at the seam;
* `names_are_the_heads` — the names of a source, and those of two sources in a row.
-/

namespace BraceTemplate

/-! ## Paths in a tree -/

/-- An operand is the path, or a call with the path as an argument. -/
inductive Operand.Mentions (p : Path) : Operand → Prop where
  | path : Mentions p (.simple (.path p))
  | argument {name : Text} {arguments : List Argument} (h : .path p ∈ arguments) :
      Mentions p (.call ⟨name, arguments⟩)

/-- The path is mentioned by the operand that an expression is, or on either side of a comparison. -/
inductive Expression.Mentions (p : Path) : Expression → Prop where
  | operand {o : Operand} (h : o.Mentions p) : Mentions p (.operand o)
  | left {operator : Comparison} {left right : Operand} (h : left.Mentions p) :
      Mentions p (.compare operator left right)
  | right {operator : Comparison} {left right : Operand} (h : right.Mentions p) :
      Mentions p (.compare operator left right)

/-- The path is mentioned by a test, or by the source of a loop. -/
inductive Opener.Mentions (p : Path) : Opener → Prop where
  | test {test : Expression} (h : test.Mentions p) : Mentions p (.cond (some test))
  | iterable {binding : Text} {iterable : Expression} (h : iterable.Mentions p) :
      Mentions p (.loop binding (some iterable))

/-- The path is the one of a reference, an argument of a call, or mentioned by the opener of a block or by a node
of its body, whether or not the block is closed. -/
inductive Node.Mentions (p : Path) : Node → Prop where
  | reference {source : Text} : Mentions p (.reference p source)
  | argument {name source : Text} {arguments : List Argument} (h : .path p ∈ arguments) :
      Mentions p (.call ⟨name, arguments⟩ source)
  | opener {opener : Opener} {body : List Node} {closed : Bool} (h : opener.Mentions p) :
      Mentions p (.block opener body closed)
  | body {opener : Opener} {body : List Node} {closed : Bool} {n : Node} (hn : n ∈ body) (h : Mentions p n) :
      Mentions p (.block opener body closed)

/-- Some node of the template mentions the path. -/
def Template.Mentions (p : Path) (t : Template) : Prop :=
  ∃ n ∈ t, n.Mentions p

/-! ## The pass over a tree -/

theorem Argument.mem_paths {p : Path} {a : Argument} : p ∈ a.paths ↔ a = .path p := by
  cases a with
  | path q => simp [paths, eq_comm]
  | literal l => simp [paths]

theorem Argument.mem_flatMap_paths {p : Path} {arguments : List Argument} :
    p ∈ arguments.flatMap Argument.paths ↔ .path p ∈ arguments := by
  simp [mem_paths]

theorem Operand.mentions_iff {p : Path} {o : Operand} : o.Mentions p ↔ p ∈ o.paths := by
  constructor
  · intro h
    cases h with
    | path => exact List.mem_singleton_self p
    | argument h => exact Argument.mem_flatMap_paths.2 h
  · intro h
    cases o with
    | simple a =>
      rw [Argument.mem_paths.1 h]
      exact .path
    | call c => exact .argument (Argument.mem_flatMap_paths.1 h)

theorem Expression.mentions_iff {p : Path} {e : Expression} : e.Mentions p ↔ p ∈ e.paths := by
  constructor
  · intro h
    cases h with
    | operand h => exact Operand.mentions_iff.1 h
    | left h => exact List.mem_append_left _ (Operand.mentions_iff.1 h)
    | right h => exact List.mem_append_right _ (Operand.mentions_iff.1 h)
  · intro h
    cases e with
    | operand o => exact .operand (Operand.mentions_iff.2 h)
    | compare operator left right =>
      rcases List.mem_append.1 h with h | h
      · exact .left (Operand.mentions_iff.2 h)
      · exact .right (Operand.mentions_iff.2 h)

theorem Opener.mentions_iff {p : Path} {o : Opener} : o.Mentions p ↔ p ∈ o.paths := by
  constructor
  · intro h
    cases h with
    | test h => exact Expression.mentions_iff.1 h
    | iterable h => exact Expression.mentions_iff.1 h
  · intro h
    rcases o with (_ | test) | ⟨binding, _ | iterable⟩
    · exact absurd h List.not_mem_nil
    · exact .test (Expression.mentions_iff.2 h)
    · exact absurd h List.not_mem_nil
    · exact .iterable (Expression.mentions_iff.2 h)

namespace Template

theorem mentions_cons {p : Path} {n : Node} {rest : Template} :
    Mentions p (n :: rest) ↔ n.Mentions p ∨ Mentions p rest := by
  simp [Mentions]

/-- The pass over a template meets exactly the paths that the template mentions. -/
theorem mentions_iff {p : Path} (t : Template) : Mentions p t ↔ p ∈ Node.allPaths t := by
  induction t using Node.list_induction with
  | nil => simp [Mentions, Node.allPaths]
  | text value rest ih =>
    have hnode : ¬ (Node.text value).Mentions p := by
      intro h
      cases h
    simp [mentions_cons, hnode, ih, Node.allPaths, Node.paths]
  | reference q source rest ih =>
    have hnode : (Node.reference q source).Mentions p ↔ p = q := by
      constructor
      · intro h
        cases h
        rfl
      · rintro rfl
        exact .reference
    simp [mentions_cons, hnode, ih, Node.allPaths, Node.paths]
  | call c source rest ih =>
    have hnode : (Node.call c source).Mentions p ↔ p ∈ c.arguments.flatMap Argument.paths := by
      rw [Argument.mem_flatMap_paths]
      constructor
      · intro h
        cases h with
        | argument h => exact h
      · exact .argument
    simp only [mentions_cons, hnode, ih, Node.allPaths, Node.paths, List.mem_append]
  | block o body closed rest ihbody ihrest =>
    have hnode : (Node.block o body closed).Mentions p ↔ p ∈ o.paths ∨ p ∈ Node.allPaths body := by
      rw [← Opener.mentions_iff, ← ihbody]
      constructor
      · intro h
        cases h with
        | opener h => exact Or.inl h
        | body hn h => exact Or.inr ⟨_, hn, h⟩
      · rintro (h | ⟨n, hn, h⟩)
        · exact .opener h
        · exact .body hn h
    simp only [mentions_cons, hnode, ihrest, Node.allPaths, Node.paths, List.mem_append]

/-- The names of a template are the heads of the paths that it mentions, but for those with a dollar sign. -/
theorem mem_names_iff_mentions {t : Template} {name : Text} :
    name ∈ t.names ↔ name.head? ≠ some CodeUnit.dollar ∧ ∃ p, t.Mentions p ∧ p.head = name := by
  have hdollar : Name.hasDollar name = false ↔ name.head? ≠ some CodeUnit.dollar := decide_eq_false_iff_not
  simp only [mem_names, hdollar, mentions_iff]

/-! ## Two sources in a row -/

/-- The template of two sources in a row, if the first leaves no brace and no block open, is that of the first and
then that of the second, but that two texts at the seam may have become one. -/
theorem ofSource_append (s t : Text) (hbraces : ∀ d ∈ (Tokens.ofSource s).defects, d.kind ≠ .unclosed)
    (hblocks : Node.allUnclosed (ofSource s) = []) :
    ofSource (s ++ t) = ofSource s ++ ofSource t ∨
      ∃ before after v w, ofSource s = before ++ [.text v] ∧ ofSource t = .text w :: after ∧
        ofSource (s ++ t) = before ++ .text (v ++ w) :: after := by
  have hlater : ofTokens (Tokens.scan (Position.start.advance s) t).tokens = ofSource t :=
    ofTokens_congr (Tokens.map_bare_scan _ _ t)
  have hseam := Tokens.seam_scan .start s t hbraces
  rw [← hlater]
  unfold ofSource Tokens.ofSource at hblocks ⊢
  generalize (Tokens.scan .start s).tokens = ts at hseam hblocks ⊢
  generalize (Tokens.scan (Position.start.advance s) t).tokens = us at hseam ⊢
  generalize (Tokens.scan .start (s ++ t)).tokens = all at hseam ⊢
  cases hseam with
  | apart => exact Or.inl (ofTokens_append hblocks)
  -- the first source ends in text and the second one begins with text
  | joined ts us v w p q =>
    obtain ⟨before, after, hfirst, hsecond, hall⟩ := ofTokens_joined us w q hblocks
    exact Or.inr ⟨before, after, v, w, hfirst, hsecond, hall⟩

theorem mentions_append {p : Path} {xs ys : Template} : Mentions p (xs ++ ys) ↔ Mentions p xs ∨ Mentions p ys := by
  simp [Mentions, or_and_right, exists_or]

theorem not_mentions_text {p : Path} {v : Text} : ¬ Mentions p [.text v] := by
  rintro ⟨n, hn, h⟩
  rw [List.mem_singleton.1 hn] at h
  cases h

/-- Nothing is mentioned at the seam, so two sources in a row mention what either of them mentions. -/
theorem mentions_ofSource_append {p : Path} {s : Text} (t : Text)
    (hbraces : ∀ d ∈ (Tokens.ofSource s).defects, d.kind ≠ .unclosed)
    (hblocks : Node.allUnclosed (ofSource s) = []) :
    Mentions p (ofSource (s ++ t)) ↔ Mentions p (ofSource s) ∨ Mentions p (ofSource t) := by
  rcases ofSource_append s t hbraces hblocks with hall | ⟨before, after, v, w, hfirst, hsecond, hall⟩
  · rw [hall, mentions_append]
  · rw [hall, hfirst, hsecond, ← List.singleton_append, ← List.singleton_append (l := after)]
    simp only [mentions_append, not_mentions_text, or_false, false_or]

/-- A source in which nothing is wrong leaves no block open. -/
theorem allUnclosed_of_ofBlocks {tokens : List Token} (h : Diagnostic.ofBlocks tokens = []) :
    Node.allUnclosed (ofTokens tokens) = [] := by
  obtain ⟨outlines, rfl, hfit⟩ := Outline.exists_outline tokens
  rw [Outline.ofBlocks_allTokens hfit, List.append_eq_nil_iff, Outline.missing, List.map_eq_nil_iff] at h
  rw [Outline.ofTokens_allTokens hfit, Outline.allUnclosed_nodes, h.2, List.map_nil]

end Template

/-- The names of a source are in strictly ascending order of their code units. A name is among them exactly if it
does not begin with a dollar sign and is the head of a path that stands anywhere in the template of the source. The
names of two sources in a row, the first of which has no diagnostics, are those of the one and those of the other. -/
theorem names_are_the_heads :
    (∀ source : Text, (Template.namesOfSource source).Pairwise (· < ·) ∧
      ∀ name, name ∈ Template.namesOfSource source ↔
        name.head? ≠ some CodeUnit.dollar ∧ ∃ p, (Template.ofSource source).Mentions p ∧ p.head = name) ∧
    ∀ s t : Text, validate s = [] → ∀ name, name ∈ Template.namesOfSource (s ++ t) ↔
      name ∈ Template.namesOfSource s ∨ name ∈ Template.namesOfSource t := by
  constructor
  · intro source
    exact ⟨Text.pairwise_sortedNames _, fun name => Template.mem_names_iff_mentions⟩
  · intro s t hvalid name
    rw [validate, List.map_eq_nil_iff, Diagnostic.ofSource_eq_nil_iff, wellFormed_iff .start] at hvalid
    obtain ⟨hdefects, hblocks⟩ := hvalid
    have hbraces : ∀ d ∈ (Tokens.ofSource s).defects, d.kind ≠ .unclosed := by
      simp [Tokens.ofSource, hdefects]
    have hmentions := fun p => Template.mentions_ofSource_append (p := p) t hbraces
      (Template.allUnclosed_of_ofBlocks hblocks)
    simp only [Template.namesOfSource, Template.mem_names_iff_mentions, hmentions]
    rw [← and_or_left, ← exists_or]
    simp only [or_and_right]

/-- A comparison with a call inside a closed loop, and after it a block and a brace that stay open. -/
theorem names_are_the_heads_open :
    validate "{for x in $user.xs}{if a == len(b.c)}{x}{endif}{endfor}" = [] ∧
    Template.namesOfSource "{for x in $user.xs}{if a == len(b.c)}{x}{endif}{endfor}{if z}{Z}\x7bx" =
      [Text.ofString "Z", Text.ofString "a", Text.ofString "b", Text.ofString "x", Text.ofString "z"] ∧
    ∀ name, name ∈ Template.namesOfSource
        (Text.ofString "{for x in $user.xs}{if a == len(b.c)}{x}{endif}{endfor}" ++ Text.ofString "{if z}{Z}\x7bx") ↔
      name ∈ Template.namesOfSource "{for x in $user.xs}{if a == len(b.c)}{x}{endif}{endfor}" ∨
        name ∈ Template.namesOfSource "{if z}{Z}\x7bx" := by
  have hvalid : validate "{for x in $user.xs}{if a == len(b.c)}{x}{endif}{endfor}" = [] := by decide +kernel
  exact ⟨hvalid, by decide +kernel, names_are_the_heads.2 _ _ hvalid⟩

end BraceTemplate
