import BraceTemplate.Proofs.Blocks
import BraceTemplate.Proofs.NormalValues
import BraceTemplate.Proofs.Placeholders

/-!
# Bindings of loops

The tag of a loop takes any name as its binding, while a path begins with a free name only: a word that opens or closes
a block is no path, and neither is a literal. A loop with such a word as its binding binds each item under a name that
nothing in its body can read.

* `Tag.isValid_of_ofBody` — what a tag can bind;
* `Expression.ofText?_name_iff` — which names are read as paths;
* `Template.render_bound`, `Template.render_not_free` — what the binding in braces renders to for one item;
* `bindings_are_readable_iff` — a binding can be read in its loop exactly if it is a free name.
-/

namespace BraceTemplate

/-! ## Names in tags -/

/-- What stands between the words of a loop is a name. -/
theorem Tag.isValid_of_loop? {t binding source : Text} (h : loop? t = some (binding, source)) :
    Name.isValid binding := by
  unfold loop? at h
  split at h
  · cases h
  · split at h
    · rename_i name u after hsplit
      split_ifs at h
      split at h
      · cases h
      · cases h
        exact (Lexeme.name_of_split? hsplit).2
      · cases h
    · cases h

/-- The binding of a loop is a name. -/
theorem Tag.isValid_of_ofBody {body x : Text} {list : Option Expression} (h : ofBody body = .loop x list) :
    Name.isValid x := by
  have hopener : (Token.tag body .start).opener? = some (.loop x list) := by
    simp only [Token.opener?, h]
  have hword : keyword? body = some (.opens .loop) := Token.keyword?_eq_opens_iff.2 ⟨_, hopener, rfl⟩
  rcases ofBody_of_opens_loop hword with ⟨binding, source, hloop, hbody⟩
  rw [h] at hbody
  cases hbody
  exact isValid_of_loop? hloop

/-- A text without blanks is trimmed already. -/
theorem Text.trim_of_forall {t : Text} (h : ∀ u ∈ t, u.isBlank = false) : t.trim = t := by
  have hdrop : ∀ s : Text, (∀ u ∈ s, u.isBlank = false) → s.dropWhile CodeUnit.isBlank = s := by
    intro s hs
    rw [List.dropWhile_eq_self_iff]
    intro hlength
    simp [hs _ (List.getElem_mem hlength)]
  have hreverse : ∀ u ∈ t.reverse, u.isBlank = false := by
    intro u hu
    exact h u (List.mem_reverse.1 hu)
  rw [trim, trimStart, hdrop t h, trimEnd, hdrop t.reverse hreverse, List.reverse_reverse]

namespace Tag

/-- Without a blank nothing comes after a word. -/
theorem afterWord?_of_forall {t : Text} (h : ∀ u ∈ t, u.isBlank = false) (word : Text) :
    afterWord? word t = none := by
  unfold afterWord?
  split
  · rename_i u rest hdrop
    have hu : u ∈ t := by
      rw [Text.dropStart?] at hdrop
      split_ifs at hdrop
      exact List.mem_of_mem_drop (Option.some.inj hdrop ▸ List.mem_cons_self)
    rw [if_neg (by simp [h u hu])]
  · rfl

/-- A name in braces opens no block, be it the word that does. -/
theorem keyword?_name {x : Text} (hx : Name.isValid x) : keyword? x =
    if x = Name.endifWord then some (.closes .cond)
    else if x = Name.endforWord then some (.closes .loop)
    else none := by
  have hblank : ∀ u ∈ x, u.isBlank = false := by
    rcases Name.exists_cons_of_isValid hx with ⟨_, _, -, -, hall⟩
    intro u hu
    exact CodeUnit.isBlank_of_continuesName (hall u hu)
  simp [keyword?, Text.trim_of_forall hblank, condition?, loop?, afterWord?_of_forall hblank]

end Tag

/-- A name by itself is one word. -/
theorem Lexeme.cut_name_iff {x : Text} (hx : Name.isValid x) {ls : List Lexeme} : Cut x ls ↔ ls = [.word x] := by
  -- nothing follows that a longer spelling could reach into
  have hlongest : Longest (.word x) x [] := by
    refine ⟨.word (.name hx), ?_⟩
    intro l s _ hprefix
    simpa using hprefix.length_le
  have hcut : Cut x [.word x] := by
    have hlexeme := Cut.lexeme hlongest .nil
    rwa [List.append_nil] at hlexeme
  constructor
  · intro h
    exact Option.some.inj ((all?_eq_some_iff.2 h).symm.trans (all?_eq_some_iff.2 hcut))
  · rintro rfl
    exact hcut

namespace Expression

/-- A name that stands for a value is free. -/
theorem isFree_of_isPlaceholder {x : Text} (hx : Name.isValid x) {e : Expression} (h : ofText? x = some e)
    (he : e.isPlaceholder) : Name.IsFree x := by
  rcases ofText?_eq_some_iff.1 h with ⟨ls, hcut, hderives⟩
  -- one word is no call and no comparison, and a placeholder is no literal
  obtain rfl := (Lexeme.cut_name_iff hx).1 hcut
  cases e with
  | compare c left right => cases he
  | operand o =>
    cases hderives with
    | operand ho =>
      cases ho with
      | call hc => cases hc
      | simple ha =>
        cases ha with
        | literal _ => cases he
        | path hp =>
          cases hp with
          | name hfree _ => exact hfree
          | root hroot _ =>
            rcases hroot with rfl | rfl
            · exact absurd hx (by decide)
            · exact absurd hx (by decide)

/-- A name by itself is a path exactly if it is free. -/
theorem ofText?_name_iff {x : Text} (hx : Name.isValid x) :
    ofText? x = some (.operand (.simple (.path ⟨x, []⟩))) ↔ Name.IsFree x := by
  constructor
  · intro h
    exact isFree_of_isPlaceholder hx h rfl
  · intro hfree
    have hcut := (Lexeme.cut_name_iff hx).2 rfl
    exact ofText?_eq_some_iff.2 ⟨[.word x], hcut, .operand (.simple (.path (.name hfree .nil)))⟩

end Expression

/-- A name that is not free stands for no value. -/
theorem Token.placeholder?_of_not_free {x : Text} (hx : Name.isValid x) (hfree : ¬ Name.IsFree x) (p : Position) :
    (Token.tag x p).placeholder? = none := by
  cases hread : (Token.tag x p).placeholder? with
  | none => rfl
  | some e =>
    rcases Option.filter_eq_some_iff.1 hread with ⟨htext, he⟩
    exact absurd (Expression.isFree_of_isPlaceholder hx htext he) hfree

/-! ## Loops over one binding -/

/-- A name that is bound reads what it is bound to: it is no root of another namespace. -/
theorem Context.resolve?_bind {x : Text} (hx : Name.isValid x) (ctx : Context) (v : Value) :
    (ctx.bind x v).resolve? [x] = some v.normalise := by
  have hconversation : x ≠ Name.conversationRoot := by
    rintro rfl
    exact absurd hx (by decide)
  have huser : x ≠ Name.userRoot := by
    rintro rfl
    exact absurd hx (by decide)
  simp only [resolve?, if_neg hconversation, if_neg huser, Value.path?, bind, Mapping.get?_put, if_true]

/-- In its loop a binding reads the item, unless that is null. -/
theorem Context.present?_bind {x : Text} (hx : Name.isValid x) (ctx : Context) {item : Value}
    (hitem : item.IsNormal) : (ctx.bind x item).present? ⟨x, []⟩ = if item.isNull then none else some item := by
  show Option.filter _ ((ctx.bind x item).resolve? [x]) = _
  rw [resolve?_bind hx, Value.normalise_of_isNormal hitem, Option.filter]
  cases item.isNull <;> rfl

section Rendering

variable {σ : Type} (registry : Registry σ) (ctx : Context) {x : Text}

/-- A name in braces is rendered as one token. -/
theorem Template.render_name (hx : Name.isValid x) :
    render registry ctx (ofSource (tagSource x)) = Token.shown registry ctx (.tag x .start) := by
  apply render_tagSource registry ctx (balanced_of_forall (Name.ne_brace_of_isValid hx))
  intro kind
  rw [Tag.keyword?_name hx]
  split_ifs <;> simp

/-- A free binding in braces shows the item, or itself for a null. -/
theorem Template.render_bound (hfree : Name.IsFree x) {item : Value} (hitem : item.IsNormal) :
    render registry (ctx.bind x item) (ofSource (tagSource x)) =
      pure (if item.isNull then tagSource x else item.toText) := by
  have hread : (Token.tag x .start).placeholder? = some (.operand (.simple (.path ⟨x, []⟩))) := by
    rw [Token.placeholder?, (Expression.ofText?_name_iff hfree.1).2 hfree]
    rfl
  rw [render_name _ _ hfree.1, Token.shown, hread]
  simp only [Expression.evaluate, Operand.evaluate, Argument.resolve?, Context.present?_bind hfree.1 ctx hitem,
    pure_bind]
  cases item.isNull <;> rfl

/-- Any other binding in braces shows itself, whatever is bound. -/
theorem Template.render_not_free (hx : Name.isValid x) (hfree : ¬ Name.IsFree x) :
    render registry ctx (ofSource (tagSource x)) = pure (tagSource x) := by
  rw [render_name _ _ hx, Token.shown, Token.placeholder?_of_not_free hx hfree]
  rfl

variable {registry ctx}

/-- A loop over a list whose body asks nothing of the host shows a text for each place. -/
theorem Node.answer_loop {list : Expression} {body : List Node} {closed : Bool} {host : σ}
    {items : List (Option Value)} {shown : Option Value → Text}
    (hlist : (list.evaluate registry ctx host).answer = .ok (some (.list items)))
    (hshown : ∀ item ∈ items, renderAll registry (ctx.bind x (item.getD .null)) body = pure (shown item)) :
    (render registry ctx (.block (.loop x (some list)) body closed) host).answer = .ok (items.flatMap shown) := by
  rw [render, Render.bind_of_ok hlist]
  simp only [Render.concat_pure hshown]
  rfl

end Rendering

/-- The source of a loop around its own binding is one block, unless the binding is a word that closes blocks. -/
theorem Template.ofSource_loop_name {opening x : Text} {list : Option Expression}
    (h : Tag.ofBody opening = .loop x list) (hbalanced : Balanced opening)
    (hcloses : x ∉ [Name.endifWord, Name.endforWord]) :
    ofSource (tagSource opening ++ tagSource x ++ tagSource Name.endforWord) =
      [.block (.loop x list) (ofSource (tagSource x)) true] := by
  have hx := Tag.isValid_of_ofBody h
  have hopener : ∀ p, (Token.tag opening p).opener? = some (.loop x list) := by
    intro p
    simp only [Token.opener?, h]
  have hword : Tag.keyword? x = none := by
    simp only [List.mem_cons, List.not_mem_nil, or_false, not_or] at hcloses
    rw [Tag.keyword?_name hx, if_neg hcloses.1, if_neg hcloses.2]
  have hbody : WellFormed (tagSource x) := by
    have hspan := WellFormed.span (balanced_of_forall (Name.ne_brace_of_isValid hx)) hword .nil
    rwa [List.append_nil] at hspan
  have hclosing : Tag.keyword? Name.endforWord = some (.closes .loop) := by decide
  exact ofSource_block hbalanced (balanced_of_all (by decide)) hopener hclosing hbody

/-- The binding of a loop can be read in the loop exactly if it is a free name.

For every tag that opens a loop: the binding by itself is read as the path of that one name exactly if it is no word
that opens or closes a block and no literal. In every context that can be made, and over every expression that gives a
list, a loop around its binding in braces then shows the items one after another, with the braces kept for a null and
for a gap; and if the name is not free, it shows the braces for each item. Unless the name is a word that closes blocks,
the source of the loop is read as that block. -/
theorem bindings_are_readable_iff {body x : Text} {list : Option Expression} (h : Tag.ofBody body = .loop x list) :
    (Expression.ofText? x = some (.operand (.simple (.path ⟨x, []⟩))) ↔ Name.IsFree x) ∧
    (∀ {σ : Type} (registry : Registry σ) (ctx : Context) (host : σ) (source : Expression) (items : List (Option Value)),
      ctx.IsNormal → (source.evaluate registry ctx host).answer = .ok (some (.list items)) →
      let block := Node.block (.loop x (some source)) (Template.ofSource (tagSource x)) true
      let shown := (block.render registry ctx host).answer
      (Name.IsFree x → shown = .ok (items.flatMap fun item =>
        if (item.getD .null).isNull then tagSource x else (item.getD .null).toText)) ∧
      (¬ Name.IsFree x → shown = .ok (items.flatMap fun _ => tagSource x))) ∧
    (Balanced body → x ∉ [Name.endifWord, Name.endforWord] →
      Template.ofSource (tagSource body ++ tagSource x ++ tagSource Name.endforWord) =
        [.block (.loop x list) (Template.ofSource (tagSource x)) true]) := by
  have hx := Tag.isValid_of_ofBody h
  refine ⟨Expression.ofText?_name_iff hx, ?_, Template.ofSource_loop_name h⟩
  intro σ registry ctx host source items hctx hlist block shown
  have hnormal := Expression.isNormal_of_evaluate_list hctx hlist
  constructor
  · intro hfree
    apply Node.answer_loop hlist
    intro item hitem
    apply Template.render_bound registry ctx hfree
    cases item with
    | none => exact .null
    | some v => exact hnormal v (List.reduceOption_mem_iff.2 hitem)
  · intro hfree
    apply Node.answer_loop hlist
    intro item _
    exact Template.render_not_free registry _ hx hfree

/-- A binding that begins like a word for loops, over a list with a null and a gap. -/
theorem bindings_are_readable_iff_format :
    let source : Expression := .operand (.simple (.path ⟨"xs", []⟩))
    let ctx : Context := ⟨[("xs", .list [some (.text "a"), some .null, none])], [], []⟩
    let block := Node.block (.loop "format" (some source)) (Template.ofSource (tagSource "format")) true
    (Tag.ofBody (loopBody "format" "xs") = .loop "format" (some source) ∧ ctx.IsNormal ∧
      (source.evaluate Registry.empty ctx ()).answer = .ok (some (.list [some (.text "a"), some .null, none])) ∧
      Balanced (loopBody "format" "xs") ∧ Name.IsFree "format") ∧
    Expression.ofText? "format" = some (.operand (.simple (.path ⟨"format", []⟩))) ∧
    (block.render Registry.empty ctx ()).answer = .ok (Text.ofString "a{format}{format}") ∧
    Template.ofSource (loopSource "format" "xs" (tagSource "format")) = [block] := by
  intro source ctx block
  have hfree : Name.IsFree "format" := Registry.isCallable_iff_isFree.1 (by decide)
  have hsource : Name.IsFree "xs" := Registry.isCallable_iff_isFree.1 (by decide)
  have htag : Tag.ofBody (loopBody "format" "xs") = .loop "format" (some source) := by
    have hblank : ∃ u ∈ Text.ofString "xs", u.isBlank = false := List.any_iff_exists_prop.1 (by decide)
    rw [Tag.ofBody_loop hblank hfree.1, (Expression.ofText?_name_iff hsource.1).2 hsource]
  have hctx : ctx.IsNormal := by
    apply Context.isNormal_of_bindings
    refine .mapping (List.pairwise_singleton _ _) (List.forall_mem_singleton.2 (Value.isNormal_list_iff.2 ?_))
    exact List.forall_mem_cons.2 ⟨.text "a", List.forall_mem_singleton.2 .null⟩
  have hlist : (source.evaluate Registry.empty ctx ()).answer =
      .ok (some (.list [some (.text "a"), some .null, none])) := rfl
  have hbalanced : Balanced (loopBody "format" "xs") := balanced_of_all (by decide)
  have hcloses : Text.ofString "format" ∉ [Name.endifWord, Name.endforWord] := by decide
  rcases bindings_are_readable_iff htag with ⟨hpath, hshown, hblock⟩
  exact ⟨⟨htag, hctx, hlist, hbalanced, hfree⟩, hpath.2 hfree, (hshown .empty ctx () source _ hctx hlist).1 hfree,
    hblock hbalanced hcloses⟩

/-- The word that opens a conditional block can be bound, and is bound in vain. -/
theorem reserved_binding_is_not_readable :
    let source : Expression := .operand (.simple (.path ⟨"xs", []⟩))
    let ctx : Context := ⟨[("xs", .ofList [.text "a"])], [], []⟩
    Tag.ofBody "for if in xs" = .loop "if" (some source) ∧ Expression.ofText? "if" = none ∧
    (Template.render Registry.empty ctx (Template.ofSource "{for if in xs}{if}{endfor}") ()).answer =
      .ok (Text.ofString "{if}") := by
  decide +kernel

end BraceTemplate
