import BraceTemplate.Template.Rendering
import BraceTemplate.Proofs.Outline
import BraceTemplate.Proofs.Scan

/-!
# Sources one after another

Where a source leaves no brace and no block open, nothing of it reaches into what follows: the cut starts
afresh at the seam, but for a text that runs over it, and so does the builder.

* `seam_scan` — the tokens of two sources in a row;
* `ofTokens_append` — the template of tokens in a row, if the first leave no block open;
* `render_append` — a render of two sources in a row is one render after the other.
-/

namespace BraceTemplate

/-! ## Tokens at the seam -/

namespace Tokens

/-- The tokens of two texts and those of the one text that they make up: either the tokens stand one after
another, or a text at the end and a text at the beginning have become one. -/
inductive Seam : List Token → List Token → List Token → Prop where
  | apart (ts us : List Token) : Seam ts us (ts ++ us)
  | joined (ts us : List Token) (v w : Text) (p q : Position) :
      Seam (ts ++ [.text v p]) (.text w q :: us) (ts ++ .text (v ++ w) p :: us)

theorem Seam.cons {ts us all : List Token} (t : Token) (h : Seam ts us all) :
    Seam (t :: ts) us (t :: all) := by
  cases h with
  | apart => exact .apart (t :: ts) us
  | joined ts us v w p q => exact .joined (t :: ts) us v w p q

/-- A unit in front of the first text stays in front of it. -/
theorem Seam.consUnit {ts us all : List Token} (u : CodeUnit) (p : Position) (h : Seam ts us all) :
    Seam (Tokens.consUnit u p ts) us (Tokens.consUnit u p all) := by
  cases h with
  | apart =>
    rcases ts with _ | ⟨_ | _, ts⟩
    · rcases us with _ | ⟨⟨w, q⟩ | _, us⟩
      · exact .apart _ _
      · exact .joined [] us [u] w p q
      · exact .apart [.text [u] p] _
    · exact .apart _ _
    · exact .apart (.text [u] p :: _) _
  | joined ts us v w p' q =>
    rcases ts with _ | ⟨_ | _, ts⟩
    · exact .joined [] us (u :: v) w p q
    · exact .joined (_ :: ts) us v w p' q
    · exact .joined (.text [u] p :: _ :: ts) us v w p' q

/-- After a text without an open brace the cut goes on as if it began there. -/
theorem seam_scan (p : Position) (s t : Text) (h : ∀ d ∈ (scan p s).defects, d.kind ≠ .unclosed) :
    Seam (scan p s).tokens (scan (p.advance s) t).tokens (scan p (s ++ t)).tokens := by
  induction p, s using scan_induction with
  | nil p =>
    rw [scan_nil]
    exact .apart [] _
  | unclosed p rest hnone =>
    rw [scan_unclosed hnone] at h
    simp at h
  | tag p body after hbody ih =>
    rw [scan_tag hbody] at h
    rw [List.append_assoc, scan_tag hbody, scan_tag hbody, Position.advance_append]
    exact (ih h).cons _
  | unit p u rest hopen ih =>
    rw [scan_unit hopen] at h
    rw [List.cons_append, scan_unit hopen, scan_unit hopen, Position.advance_cons]
    refine (ih fun d hd => h d ?_).consUnit u p
    simp only
    split
    · exact List.mem_cons_of_mem _ hd
    · exact hd

end Tokens

/-! ## The builder at the seam -/

namespace Template

theorem step_bare (b : Partial) (t : Token) : b.step (Tokens.bare t) = b.step t := by
  cases t <;> rfl

/-- The template does not depend on the positions of the tokens. -/
theorem ofTokens_congr {ts us : List Token} (h : ts.map Tokens.bare = us.map Tokens.bare) :
    ofTokens ts = ofTokens us := by
  have hbare : ∀ ts : List Token,
      ts.foldl Partial.step .empty = (ts.map Tokens.bare).foldl Partial.step .empty := by
    intro ts
    rw [List.foldl_map]
    simp only [step_bare]
  unfold ofTokens
  rw [hbare ts, hbare us, h]

/-- Outside all blocks, tokens add their own template to the nodes before them. -/
theorem result_foldl_root (earlier : List Node) (ts : List Token) :
    (ts.foldl Partial.step ⟨earlier, []⟩).result = earlier.reverse ++ ofTokens ts := by
  obtain ⟨outlines, rfl, hfit⟩ := Outline.exists_outline ts
  rw [Outline.ofTokens_allTokens hfit, Outline.result_foldl_step outlines ⟨earlier, []⟩ hfit]
  simp [Partial.finish]

/-- A template without open blocks was built with no block left on the stack. -/
theorem foldl_step_of_closed {ts : List Token} (h : Node.allUnclosed (ofTokens ts) = []) :
    ts.foldl Partial.step .empty = ⟨(ofTokens ts).reverse, []⟩ := by
  obtain ⟨outlines, rfl, hfit⟩ := Outline.exists_outline ts
  rw [Outline.ofTokens_allTokens hfit, Outline.allUnclosed_nodes, List.map_eq_nil_iff] at h
  rw [Outline.ofTokens_allTokens hfit, Outline.foldl_step_of_closed outlines .empty hfit h]
  simp [Partial.empty]

theorem ofTokens_append {ts us : List Token} (h : Node.allUnclosed (ofTokens ts) = []) :
    ofTokens (ts ++ us) = ofTokens ts ++ ofTokens us := by
  have hresult := result_foldl_root (ofTokens ts).reverse us
  rw [← foldl_step_of_closed h, ← List.foldl_append, List.reverse_reverse] at hresult
  exact hresult

/-- What becomes of a template if its last text and the first text of what follows are one token. -/
theorem ofTokens_joined {ts : List Token} (us : List Token) {v : Text} (w : Text) {p : Position}
    (q : Position) (h : Node.allUnclosed (ofTokens (ts ++ [.text v p])) = []) :
    ∃ before after, ofTokens (ts ++ [.text v p]) = before ++ [.text v] ∧
      ofTokens (.text w q :: us) = .text w :: after ∧
      ofTokens (ts ++ .text (v ++ w) p :: us) = before ++ .text (v ++ w) :: after := by
  -- the builder before the last text has no open block either, and that text is its last node
  have hlast := foldl_step_of_closed h
  rw [List.foldl_append, List.foldl_cons, List.foldl_nil] at hlast
  rcases hstate : ts.foldl Partial.step .empty with ⟨earlier, blocks⟩
  rw [hstate] at hlast
  simp only [Partial.step, Partial.add, Partial.mk.injEq] at hlast
  obtain ⟨hnodes, rfl⟩ := hlast
  refine ⟨earlier.reverse, ofTokens us, ?_, ?_, ?_⟩
  · have hreverse := congrArg List.reverse hnodes
    simpa using hreverse.symm
  · exact result_foldl_root [.text w] us
  · have hresult := result_foldl_root (.text (v ++ w) :: earlier) us
    rw [List.reverse_cons, List.append_assoc, List.singleton_append] at hresult
    rw [← hresult, ofTokens, List.foldl_append, List.foldl_cons, hstate]
    rfl

end Template

/-! ## Rendering at the seam -/

section Rendering

variable {σ : Type} (registry : Registry σ) (ctx : Context)

theorem Node.renderAll_nil : Node.renderAll registry ctx [] = pure [] := rfl

/-- The texts of nodes in a row stand in a row, and so do the calls that they make. -/
theorem Node.renderAll_append (xs ys : List Node) :
    Node.renderAll registry ctx (xs ++ ys) = (do
      let first ← Node.renderAll registry ctx xs
      let others ← Node.renderAll registry ctx ys
      return first ++ others) := by
  induction xs with
  | nil => simp [Node.renderAll]
  | cons x xs ih =>
    rw [List.cons_append, Node.renderAll, Node.renderAll, ih]
    simp only [bind_assoc, pure_bind, List.append_assoc]

theorem Node.renderAll_text_cons (v : Text) (nodes : List Node) :
    Node.renderAll registry ctx (.text v :: nodes) = (do
      let others ← Node.renderAll registry ctx nodes
      return v ++ others) := by
  simp only [Node.renderAll, Node.render, pure_bind]

/-- A render of two sources in a row is a render of the first and then one of the second, whatever the
second is, if the first leaves no brace and no block open: the texts stand in a row, and a function sees
the calls of the first source before those of the second. -/
theorem render_append (s t : Text)
    (hbraces : ∀ d ∈ (Tokens.ofSource s).defects, d.kind ≠ .unclosed)
    (hblocks : Node.allUnclosed (Template.ofSource s) = []) :
    Template.render registry ctx (Template.ofSource (s ++ t)) = (do
      let first ← Template.render registry ctx (Template.ofSource s)
      let second ← Template.render registry ctx (Template.ofSource t)
      return first ++ second) := by
  have hlater : Template.ofTokens (Tokens.scan (Position.start.advance s) t).tokens =
      Template.ofSource t :=
    Template.ofTokens_congr (Tokens.map_bare_scan _ _ t)
  have hseam := Tokens.seam_scan .start s t hbraces
  rw [← hlater]
  unfold Template.ofSource Tokens.ofSource at hblocks ⊢
  generalize (Tokens.scan .start s).tokens = ts at hseam hblocks ⊢
  generalize (Tokens.scan (Position.start.advance s) t).tokens = us at hseam ⊢
  generalize (Tokens.scan .start (s ++ t)).tokens = all at hseam ⊢
  cases hseam with
  | apart =>
    rw [Template.ofTokens_append hblocks]
    exact Node.renderAll_append registry ctx _ _
  | joined ts us v w p q =>
    obtain ⟨before, after, hfirst, hsecond, hall⟩ := Template.ofTokens_joined us w q hblocks
    rw [hfirst, hsecond, hall]
    simp only [Node.renderAll_append, Node.renderAll_text_cons, Node.renderAll_nil, bind_assoc,
      pure_bind, List.append_assoc, List.append_nil]

end Rendering

/-- A closing brace outside every tag, a closed loop and a text that runs over the seam to a brace that
stays open. -/
theorem render_append_loop_before_brace :
    (∀ d ∈ (Tokens.ofSource "a\x7d{for x in y}{x}{endfor}b").defects, d.kind ≠ .unclosed) ∧
    Node.allUnclosed (Template.ofSource "a\x7d{for x in y}{x}{endfor}b") = [] ∧
    Template.render (.empty : Registry Unit) .empty
        (Template.ofSource (Text.ofString "a\x7d{for x in y}{x}{endfor}b" ++ Text.ofString "c\x7bif z")) =
      (do
        let first ← Template.render .empty .empty (Template.ofSource "a\x7d{for x in y}{x}{endfor}b")
        let second ← Template.render .empty .empty (Template.ofSource "c\x7bif z")
        return first ++ second) := by
  have hbraces : ∀ d ∈ (Tokens.ofSource "a\x7d{for x in y}{x}{endfor}b").defects,
      d.kind ≠ .unclosed := by decide +kernel
  have hblocks : Node.allUnclosed (Template.ofSource "a\x7d{for x in y}{x}{endfor}b") = [] := by
    decide +kernel
  exact ⟨hbraces, hblocks, render_append .empty .empty _ _ hbraces hblocks⟩

end BraceTemplate
