import BraceTemplate.Proofs.Concatenation
import BraceTemplate.Proofs.Trimming

/-!
# Sources without blocks

Where no tag opens a block, a source is rendered token by token. A tag that is read as a path or a call stands
for a value; whatever else a source holds, stray closing tags and braces without a partner included, shows as it
is written, and so does a tag whose value is not there.

* `expression?_ofBody` — which tags stand for a value;
* `ofTokens_of_no_opener` — the template of such tokens is flat;
* `render_token_by_token` — what such a source renders to, and when it renders to itself.
-/

namespace BraceTemplate

/-! ## Tags that stand for a value -/

/-- Whether an expression by itself stands for a value in a text: a path or a call, but no literal and no
comparison. -/
def Expression.isPlaceholder : Expression → Bool
  | operand (.simple (.path _)) => true
  | operand (.call _) => true
  | _ => false

/-- The path or the call that a token is read as, if it is. -/
def Token.placeholder? : Token → Option Expression
  | text .. => none
  | tag body _ => (Expression.ofText? body).filter Expression.isPlaceholder

theorem Token.isPlaceholder_of_placeholder? {t : Token} {e : Expression} (h : t.placeholder? = some e) :
    e.isPlaceholder := by
  cases t with
  | text => cases h
  | tag body p => exact (Option.filter_eq_some_iff.1 h).2

/-- Whether a token is read as one of the two roots by itself. -/
def Token.isBareRoot (t : Token) : Bool :=
  t.placeholder? = some (.operand (.simple (.path ⟨Name.conversationRoot, []⟩))) ||
    t.placeholder? = some (.operand (.simple (.path ⟨Name.userRoot, []⟩)))

namespace Tag

/-- The expression that a tag stands for. -/
def expression? : Tag → Option Expression
  | path p => some (.operand (.simple (.path p)))
  | call c => some (.operand (.call c))
  | _ => none

/-- The word of a closing tag is reserved, so it is no path. -/
theorem ofText?_of_closes {body : Text} {kind : BlockKind} (h : keyword? body = some (.closes kind)) :
    Expression.ofText? body = none := by
  have hendif : Expression.ofText? Name.endifWord = none := by decide +kernel
  have hendfor : Expression.ofText? Name.endforWord = none := by decide +kernel
  rw [← Expression.ofText?_trim]
  simp only [keyword?] at h
  split_ifs at h with hif hfor
  · rw [hif, hendif]
  · rw [hfor, hendfor]
  · cases h
  · cases h

/-- A tag that opens no block stands for the path or the call that it is read as. -/
theorem expression?_ofBody {body : Text} (h : ∀ kind, keyword? body ≠ some (.opens kind)) :
    (ofBody body).expression? = (Expression.ofText? body).filter Expression.isPlaceholder := by
  rcases hword : keyword? body with _ | kind | kind
  · rw [← Expression.ofText?_trim]
    simp only [ofBody, hword]
    rcases Expression.ofText? body.trim with _ | (⟨p | l⟩ | c) | ⟨operator, left, right⟩
    · rfl
    · rfl
    · rfl
    · rfl
    · rfl
  · exact absurd hword (h kind)
  · rw [ofBody_of_closes hword, ofText?_of_closes hword]
    rfl

end Tag

/-! ## What a token shows -/

namespace Token

variable {σ : Type}

/-- What a token shows: the value of the path or call that it is read as, and its own source if it is none or if
there is no value. -/
def shown (registry : Registry σ) (ctx : Context) (t : Token) : Render σ Text :=
  match t.placeholder? with
  | none => pure t.lexeme
  | some e => do
    let value ← e.evaluate registry ctx
    return (value.map Value.toText).getD t.lexeme

theorem opener?_eq_none {t : Token} (h : ∀ kind, t.keyword? ≠ some (.opens kind)) :
    t.opener? = none := by
  cases hopener : t.opener? with
  | none => rfl
  | some o => exact absurd (keyword?_eq_opens_iff.2 ⟨o, hopener, rfl⟩) (h o.kind)

/-- A token that opens no block becomes a node that shows what the token shows. -/
theorem render_node (registry : Registry σ) (ctx : Context) {t : Token}
    (h : ∀ kind, t.keyword? ≠ some (.opens kind)) : t.node.render registry ctx = t.shown registry ctx := by
  cases t with
  | text value p => rfl
  | tag body p =>
    have hexpression : (tag body p).placeholder? = (Tag.ofBody body).expression? :=
      (Tag.expression?_ofBody h).symm
    unfold shown
    rw [hexpression]
    cases htag : Tag.ofBody body with
    | path q =>
      simp only [node, htag, Tag.expression?, Node.render, Expression.evaluate, Operand.evaluate, pure_bind]
      rfl
    | call c =>
      simp only [node, htag, Tag.expression?, Node.render, Expression.evaluate, Operand.evaluate]
      rfl
    | cond | loop | close | plain =>
      simp only [node, htag, Tag.expression?, Node.render]
      rfl

end Token

/-! ## Flat templates -/

namespace Template

/-- Outside all blocks, tokens that open none become nodes one by one: no closing tag among them fits. -/
theorem foldl_step_of_no_opener {tokens : List Token} (h : ∀ t ∈ tokens, t.opener? = none)
    (earlier : List Node) : tokens.foldl Partial.step ⟨earlier, []⟩ =
      ⟨(tokens.map Token.node).reverse ++ earlier, []⟩ := by
  induction tokens generalizing earlier with
  | nil => rfl
  | cons t rest ih =>
    obtain ⟨ht, hrest⟩ := List.forall_mem_cons.1 h
    -- a closing tag among them finds no block that it could close
    have hstep : Partial.step ⟨earlier, []⟩ t = ⟨t.node :: earlier, []⟩ := by
      apply Partial.step_leaf _ ht
      intro kind _ hinner
      exact Option.some_ne_none kind hinner.symm
    rw [List.foldl_cons, hstep, ih hrest, List.map_cons, List.reverse_cons, List.append_assoc,
      List.singleton_append]

/-- The template of tokens that open no block is flat. -/
theorem ofTokens_of_no_opener {tokens : List Token} (h : ∀ t ∈ tokens, t.opener? = none) :
    ofTokens tokens = tokens.map Token.node := by
  have hrun := foldl_step_of_no_opener h []
  simp only [ofTokens, Partial.empty, hrun, Partial.finish, List.append_nil, List.reverse_reverse]

end Template

section Rendering

variable {σ : Type}

/-- Flat nodes are rendered one after another. -/
theorem Node.renderAll_map_node (registry : Registry σ) (ctx : Context) {tokens : List Token}
    (h : ∀ t ∈ tokens, ∀ kind, t.keyword? ≠ some (.opens kind)) :
    renderAll registry ctx (tokens.map Token.node) = Render.concat (Token.shown registry ctx) tokens := by
  induction tokens with
  | nil => rfl
  | cons t rest ih =>
    obtain ⟨ht, hrest⟩ := List.forall_mem_cons.1 h
    rw [List.map_cons, renderAll, Token.render_node registry ctx ht, ih hrest]
    rfl

/-- Texts that do not depend on the host stand in a row. -/
theorem Render.concat_pure {α : Type} {f : α → Render σ Text} {g : α → Text} {l : List α}
    (h : ∀ a ∈ l, f a = pure (g a)) : Render.concat f l = pure (l.flatMap g) := by
  induction l with
  | nil => rfl
  | cons a l ih =>
    obtain ⟨ha, hl⟩ := List.forall_mem_cons.1 h
    rw [concat, ha, ih hl, pure_bind, pure_bind, List.flatMap_cons]

/-- Where no tag opens a block, the tokens are rendered one after another. -/
theorem Template.render_of_no_opener (registry : Registry σ) (ctx : Context) {source : Text}
    (h : ∀ t ∈ (Tokens.ofSource source).tokens, ∀ kind, t.keyword? ≠ some (.opens kind)) :
    render registry ctx (ofSource source) =
      Render.concat (Token.shown registry ctx) (Tokens.ofSource source).tokens := by
  have hflat : ofSource source = (Tokens.ofSource source).tokens.map Token.node := by
    apply ofTokens_of_no_opener
    intro t ht
    exact Token.opener?_eq_none (h t ht)
  rw [hflat]
  exact Node.renderAll_map_node registry ctx h

/-- A tag by itself that opens no block renders to what it shows. -/
theorem Template.render_tagSource (registry : Registry σ) (ctx : Context) {body : Text} (hbody : Balanced body)
    (h : ∀ kind, Tag.keyword? body ≠ some (.opens kind)) :
    render registry ctx (ofSource (tagSource body)) = Token.shown registry ctx (.tag body .start) := by
  have htokens : (Tokens.ofSource (tagSource body)).tokens = [.tag body .start] := by
    have hscan := Tokens.scan_tag hbody .start []
    rw [List.append_nil, Tokens.scan_nil] at hscan
    rw [Tokens.ofSource, hscan]
  have hopener : ∀ t ∈ (Tokens.ofSource (tagSource body)).tokens, ∀ kind, t.keyword? ≠ some (.opens kind) := by
    intro t ht
    rw [htokens, List.mem_singleton] at ht
    rw [ht]
    exact h
  rw [render_of_no_opener registry ctx hopener, htokens]
  simp only [Render.concat, pure_bind, List.append_nil, bind_pure]

/-! ## Nothing to show -/

/-- In the empty context only the two roots by themselves are there. -/
theorem Context.present?_empty {p : Path} (hconversation : p ≠ ⟨Name.conversationRoot, []⟩)
    (huser : p ≠ ⟨Name.userRoot, []⟩) : Context.empty.present? p = none := by
  rcases p with ⟨head, _ | ⟨field, fields⟩⟩
  · have hheads : head ≠ Name.conversationRoot ∧ head ≠ Name.userRoot := by
      constructor
      · rintro rfl
        exact hconversation rfl
      · rintro rfl
        exact huser rfl
    simp only [present?, resolve?, if_neg hheads.1, if_neg hheads.2]
    rfl
  · -- a field is looked up in a namespace, and each is empty
    have hfield : (Value.mapping []).path? (field :: fields) = none := rfl
    have hhead : (Value.mapping []).path? (head :: field :: fields) = none := rfl
    simp only [present?, resolve?, Context.empty, hfield, hhead, ite_self, Option.filter_none]

/-- Without functions and without data, a token shows as it is written, but for a root by itself. -/
theorem Token.shown_empty {t : Token} (h : t.isBareRoot = false) :
    t.shown (.empty : Registry σ) .empty = pure t.lexeme := by
  rw [isBareRoot, Bool.or_eq_false_iff, decide_eq_false_iff_not, decide_eq_false_iff_not] at h
  unfold shown
  rcases hread : t.placeholder? with _ | (⟨p | l⟩ | c) | ⟨operator, left, right⟩
  · rfl
  · have hpath : Context.empty.present? p = none := by
      apply Context.present?_empty
      · rintro rfl
        exact h.1 hread
      · rintro rfl
        exact h.2 hread
    simp only [Expression.evaluate, Operand.evaluate, Argument.resolve?, hpath, pure_bind]
    rfl
  · exact absurd (isPlaceholder_of_placeholder? hread) Bool.false_ne_true
  · rfl
  · exact absurd (isPlaceholder_of_placeholder? hread) Bool.false_ne_true

/-- A source in which no tag opens a block renders to the texts that its tokens show, one after another: a tag that
is read as a path or a call shows its value if it has one, and every other token shows as it is written. Without
functions and without data, such a source renders to itself if it has no tag that is just one of the two roots. -/
theorem render_token_by_token (registry : Registry σ) (ctx : Context) (source : Text)
    (hopeners : ∀ t ∈ (Tokens.ofSource source).tokens, ∀ kind, t.keyword? ≠ some (.opens kind)) :
    Template.render registry ctx (Template.ofSource source) =
      Render.concat (Token.shown registry ctx) (Tokens.ofSource source).tokens ∧
    ((∀ t ∈ (Tokens.ofSource source).tokens, t.isBareRoot = false) →
      Template.render (.empty : Registry σ) .empty (Template.ofSource source) = pure source) := by
  constructor
  · exact Template.render_of_no_opener registry ctx hopeners
  · intro hroots
    calc Template.render (.empty : Registry σ) .empty (Template.ofSource source)
      _ = Render.concat (Token.shown .empty .empty) (Tokens.ofSource source).tokens :=
        Template.render_of_no_opener .empty .empty hopeners
      _ = pure ((Tokens.ofSource source).tokens.flatMap Token.lexeme) := by
        apply Render.concat_pure
        intro t ht
        exact Token.shown_empty (hroots t ht)
      _ = pure source := by rw [Tokens.ofSource, Tokens.flatMap_lexeme_scan]

end Rendering

/-- A stray closing tag, a call that is refused, a path that has a value in one of two contexts, an object in the
notation of data, and a brace that stays open. -/
theorem render_token_by_token_stray_tags :
    let source := Text.ofString "{endif}{f(x)}{ x }\x7b\"a\": [\x7b\x7d]\x7d\x7by"
    ((∀ t ∈ (Tokens.ofSource source).tokens, ∀ kind, t.keyword? ≠ some (.opens kind)) ∧
      ∀ t ∈ (Tokens.ofSource source).tokens, t.isBareRoot = false) ∧
    (Template.render (.empty : Registry Unit) ⟨[("x", .text "1")], [], []⟩
      (Template.ofSource source) ()).answer.toOption =
        some (Text.ofString "{endif}{f(x)}1\x7b\"a\": [\x7b\x7d]\x7d\x7by") ∧
    Template.render (.empty : Registry Unit) .empty (Template.ofSource source) = pure source := by
  intro source
  have hcond : ∀ t ∈ (Tokens.ofSource source).tokens, t.keyword? ≠ some (.opens .cond) := by decide +kernel
  have hloop : ∀ t ∈ (Tokens.ofSource source).tokens, t.keyword? ≠ some (.opens .loop) := by decide +kernel
  have hopeners : ∀ t ∈ (Tokens.ofSource source).tokens, ∀ kind, t.keyword? ≠ some (.opens kind) := by
    intro t ht kind
    cases kind with
    | cond => exact hcond t ht
    | loop => exact hloop t ht
  have hroots : ∀ t ∈ (Tokens.ofSource source).tokens, t.isBareRoot = false := by decide +kernel
  have hrender := render_token_by_token (.empty : Registry Unit) ⟨[("x", .text "1")], [], []⟩ source hopeners
  refine ⟨⟨hopeners, hroots⟩, ?_, hrender.2 hroots⟩
  rw [hrender.1]
  decide +kernel

end BraceTemplate
