import BraceTemplate.Template.Names
import BraceTemplate.Template.Rendering
import BraceTemplate.Proofs.Mapping
import BraceTemplate.Proofs.ReadExpressions

/-!
# What a render reads

The names of a template are the heads of its paths, less those that begin with a dollar sign. This loses
nothing, because the reader makes paths with a dollar sign only at the two roots; so a render reads no
variable but those that are named.

* `mem_names` — what the names of a template are;
* `headed_of_ofSource` — the paths of a source;
* `render_eq_of_agree` — two contexts that agree on the names of a source render it alike.
-/

namespace BraceTemplate

/-! ## Names in order -/

namespace Text

theorem mem_insertName {x name : Text} {names : List Text} :
    x ∈ insertName name names ↔ x = name ∨ x ∈ names := by
  induction names with
  | nil => simp [insertName]
  | cons other rest ih =>
    unfold insertName
    split
    · simp
    · split
      · simp only [List.mem_cons, ih]
        exact or_left_comm
      · -- neither name comes before the other
        rename_i hlt hgt
        have heq : name = other :=
          List.le_antisymm (List.not_lt.1 hgt) (List.not_lt.1 hlt)
        simp [heq]

theorem mem_sortedNames {x : Text} {names : List Text} : x ∈ sortedNames names ↔ x ∈ names := by
  induction names with
  | nil => simp [sortedNames]
  | cons name rest ih =>
    rw [sortedNames, List.foldr_cons, mem_insertName, List.mem_cons]
    exact or_congr_right ih

theorem pairwise_insertName {name : Text} {names : List Text} (h : names.Pairwise (· < ·)) :
    (insertName name names).Pairwise (· < ·) := by
  induction names with
  | nil => exact List.pairwise_singleton ..
  | cons other rest ih =>
    rcases List.pairwise_cons.1 h with ⟨hother, hrest⟩
    unfold insertName
    split
    · -- the new name comes before the first, and so before all
      rename_i hlt
      refine List.pairwise_cons.2 ⟨?_, h⟩
      intro x hx
      rcases List.mem_cons.1 hx with rfl | hx
      · exact hlt
      · exact List.lt_trans hlt (hother x hx)
    · split
      · rename_i hgt
        refine List.pairwise_cons.2 ⟨?_, ih hrest⟩
        intro x hx
        rcases mem_insertName.1 hx with rfl | hx
        · exact hgt
        · exact hother x hx
      · exact h

/-- The names are in strictly ascending order, so that none is there twice. -/
theorem pairwise_sortedNames (names : List Text) : (sortedNames names).Pairwise (· < ·) := by
  induction names with
  | nil => exact List.Pairwise.nil
  | cons name rest ih => exact pairwise_insertName ih

theorem nodup_of_ascending {names : List Text} (h : names.Pairwise (· < ·)) : names.Nodup := by
  apply h.imp
  rintro a b hlt rfl
  exact List.lt_irrefl a hlt

/-- Names that are in order already stay as they are. -/
theorem sortedNames_eq_self {names : List Text} (h : names.Pairwise (· < ·)) : sortedNames names = names := by
  induction names with
  | nil => rfl
  | cons name rest ih =>
    rcases List.pairwise_cons.1 h with ⟨hname, hrest⟩
    rw [sortedNames, List.foldr_cons, ← sortedNames, ih hrest]
    cases rest with
    | nil => rfl
    | cons other rest => exact if_pos (hname other List.mem_cons_self)

end Text

theorem Template.mem_names {t : Template} {name : Text} :
    name ∈ t.names ↔ Name.hasDollar name = false ∧ ∃ p ∈ Node.allPaths t, p.head = name := by
  simp only [names, Text.mem_sortedNames, List.mem_filter, List.mem_map]
  rw [and_comm]
  simp

/-! ## The heads of paths -/

/-- A path whose head is one of the roots, or has no dollar sign. -/
def Path.Headed (p : Path) : Prop :=
  p.head = Name.conversationRoot ∨ p.head = Name.userRoot ∨ Name.hasDollar p.head = false

namespace Expression

theorem headed_of_pathFrom? {word : Text} {rest after : List Lexeme} {p : Path}
    (h : pathFrom? word rest = some (p, after)) : p.Headed := by
  unfold pathFrom? at h
  split at h
  · rename_i hhead
    obtain ⟨⟨fields, r⟩, _, heq⟩ := Option.map_eq_some_iff.1 h
    simp only [Prod.mk.injEq] at heq
    rw [← heq.1]
    simp only [isHead, Bool.and_eq_true, Bool.or_eq_true, Bool.not_eq_true',
      decide_eq_true_eq] at hhead
    rcases hhead.2 with (hplain | hroot) | hroot
    · exact Or.inr (Or.inr hplain)
    · exact Or.inl hroot
    · exact Or.inr (Or.inl hroot)
  · simp at h

theorem headed_of_argument? {tokens after : List Lexeme} {a : Argument}
    (h : argument? tokens = some (a, after)) : ∀ p ∈ a.paths, p.Headed := by
  unfold argument? at h
  split at h
  · simp only [Option.some.injEq, Prod.mk.injEq] at h
    simp [← h.1, Argument.paths]
  · simp only [Option.some.injEq, Prod.mk.injEq] at h
    simp [← h.1, Argument.paths]
  · split at h
    · simp only [Option.some.injEq, Prod.mk.injEq] at h
      simp [← h.1, Argument.paths]
    · obtain ⟨⟨p, r⟩, hpath, heq⟩ := Option.map_eq_some_iff.1 h
      simp only [Prod.mk.injEq] at heq
      rw [← heq.1]
      simpa [Argument.paths] using headed_of_pathFrom? hpath
  · simp at h

theorem headed_of_moreArguments? {tokens after : List Lexeme} {args : List Argument}
    (h : moreArguments? tokens = some (args, after)) :
    ∀ p ∈ args.flatMap Argument.paths, p.Headed := by
  fun_induction moreArguments? tokens generalizing args with
  | case1 tokens a rest harg ih =>
    obtain ⟨⟨as, r⟩, hmore, heq⟩ := Option.map_eq_some_iff.1 h
    simp only [Prod.mk.injEq] at heq
    rw [← heq.1]
    intro p hp
    rw [List.flatMap_cons] at hp
    rcases List.mem_append.1 hp with hfirst | hlater
    · exact headed_of_argument? harg p hfirst
    · rw [heq.2] at hmore
      exact ih hmore p hlater
  | case2 tokens a rest harg =>
    simp only [Option.some.injEq, Prod.mk.injEq] at h
    rw [← h.1]
    simpa using headed_of_argument? harg
  | case3 => simp at h

theorem headed_of_operand? {tokens after : List Lexeme} {o : Operand}
    (h : operand? tokens = some (o, after)) : ∀ p ∈ o.paths, p.Headed := by
  unfold operand? at h
  split at h
  · split at h
    · simp only [Option.some.injEq, Prod.mk.injEq] at h
      simp [← h.1, Operand.paths, Argument.paths]
    · split at h
      · simp at h
      · obtain ⟨⟨args, r⟩, hargs, heq⟩ := Option.map_eq_some_iff.1 h
        simp only [Prod.mk.injEq] at heq
        rw [← heq.1]
        unfold arguments? at hargs
        split at hargs
        · simp only [Option.some.injEq, Prod.mk.injEq] at hargs
          simp [← hargs.1, Operand.paths]
        · exact headed_of_moreArguments? hargs
  · obtain ⟨⟨a, r⟩, harg, heq⟩ := Option.map_eq_some_iff.1 h
    simp only [Prod.mk.injEq] at heq
    rw [← heq.1]
    exact headed_of_argument? harg

/-- The paths of an expression that was read begin with a root or without a dollar sign. -/
theorem headed_of_ofText? {t : Text} {e : Expression} (h : ofText? t = some e) :
    ∀ p ∈ e.paths, p.Headed := by
  unfold ofText? at h
  split at h
  · unfold ofLexemes? at h
    split at h
    · rename_i left hleft
      simp only [Option.some.injEq] at h
      rw [← h]
      exact headed_of_operand? hleft
    · rename_i left c rest hleft
      split at h
      · rename_i right hright
        simp only [Option.some.injEq] at h
        rw [← h]
        intro p hp
        rcases List.mem_append.1 hp with hp | hp
        · exact headed_of_operand? hleft p hp
        · exact headed_of_operand? hright p hp
      · simp at h
    · simp at h
  · simp at h

end Expression

/-- The paths of a source begin with a root or without a dollar sign. -/
theorem headed_of_ofSource (source : Text) :
    ∀ p ∈ Node.allPaths (Template.ofSource source), p.Headed := by
  intro p hp
  rw [Node.allPaths_eq] at hp
  rcases List.mem_flatMap.1 hp with ⟨e, he, hp⟩
  rcases Template.isRead_of_mem_expressions he with ⟨t, hread⟩
  exact Expression.headed_of_ofText? hread p hp

/-! ## Contexts that agree -/

/-- Two contexts hold the same data of the conversation and of the user, and the same under the names:
either a name is in neither, or it has the same value in both. -/
structure Context.Agree (names : Text → Prop) (c d : Context) : Prop where
  conversationData_eq : c.conversationData = d.conversationData
  userData_eq : c.userData = d.userData
  get?_eq : ∀ name, names name → c.get? name = d.get? name

/-- A path whose head is a root or one of the names. -/
def Path.Covered (names : Text → Prop) (p : Path) : Prop :=
  p.head = Name.conversationRoot ∨ p.head = Name.userRoot ∨ names p.head

section Agreement

variable {σ : Type} {names : Text → Prop} {c d : Context}

/-- A binding hides what the contexts held under its name, and leaves the other names as they were. -/
theorem Context.Agree.bind (h : Agree names c d) (name : Text) (v : Value) :
    Agree names (c.bind name v) (d.bind name v) := by
  refine ⟨h.conversationData_eq, h.userData_eq, fun n hn => ?_⟩
  have hget := h.get?_eq n hn
  simp only [Context.get?, Context.bind, Mapping.get?_put] at hget ⊢
  rw [hget]

theorem Context.Agree.present? (h : Agree names c d) {p : Path} (hp : p.Covered names) :
    c.present? p = d.present? p := by
  have hresolve : c.resolve? p.segments = d.resolve? p.segments := by
    simp only [Context.resolve?, h.conversationData_eq, h.userData_eq]
    split
    · rfl
    · split
      · rfl
      · rename_i hconversation huser
        have hname : names p.head := by
          rcases hp with hp | hp | hp
          · exact absurd hp hconversation
          · exact absurd hp huser
          · exact hp
        have hget := h.get?_eq p.head hname
        simp only [Context.get?] at hget
        simp only [Value.path?, hget]
  rw [Context.present?, Context.present?, hresolve]

theorem Argument.resolve?_of_agree (h : Context.Agree names c d) (a : Argument)
    (ha : ∀ p ∈ a.paths, p.Covered names) : a.resolve? c = a.resolve? d := by
  cases a with
  | path p => exact h.present? (ha p (by simp [paths]))
  | literal l => rfl

theorem Call.evaluate_of_agree (registry : Registry σ) (h : Context.Agree names c d) (call : Call)
    (hcall : ∀ p ∈ call.arguments.flatMap Argument.paths, p.Covered names) :
    call.evaluate registry c = call.evaluate registry d := by
  have hargs : call.arguments.map (Argument.resolve? c) = call.arguments.map (Argument.resolve? d) := by
    refine List.map_congr_left fun a ha => ?_
    exact a.resolve?_of_agree h fun p hp => hcall p (List.mem_flatMap.2 ⟨a, ha, hp⟩)
  simp only [evaluate, hargs]

theorem Operand.evaluate_of_agree (registry : Registry σ) (h : Context.Agree names c d) (o : Operand)
    (ho : ∀ p ∈ o.paths, p.Covered names) : o.evaluate registry c = o.evaluate registry d := by
  cases o with
  | simple a => simp only [evaluate, a.resolve?_of_agree h ho]
  | call call => exact call.evaluate_of_agree registry h ho

theorem Expression.evaluate_of_agree (registry : Registry σ) (h : Context.Agree names c d) (e : Expression)
    (he : ∀ p ∈ e.paths, p.Covered names) : e.evaluate registry c = e.evaluate registry d := by
  cases e with
  | operand o => exact o.evaluate_of_agree registry h he
  | compare operator left right =>
    have hleft := left.evaluate_of_agree registry h fun p hp =>
      he p (List.mem_append_left _ hp)
    have hright := right.evaluate_of_agree registry h fun p hp =>
      he p (List.mem_append_right _ hp)
    simp only [evaluate, hleft, hright]

/-- Nodes are rendered alike in contexts that agree on all names in them. The contexts are generalised
because a loop renders its body in two others, which still agree. -/
theorem Node.renderAll_of_agree (registry : Registry σ) (nodes : List Node) :
    ∀ c d, Context.Agree names c d → (∀ p ∈ allPaths nodes, p.Covered names) →
      renderAll registry c nodes = renderAll registry d nodes := by
  induction nodes using Node.list_induction with
  | nil => intro c d _ _; rfl
  | text value rest ih =>
    intro c d h hpaths
    have hrest := ih c d h fun p hp => hpaths p (by simp [allPaths, hp])
    simp only [renderAll, render, hrest]
  | reference p source rest ih =>
    intro c d h hpaths
    have hrest := ih c d h fun p hp => hpaths p (by simp [allPaths, hp])
    have hvalue := h.present? (hpaths p (by simp [allPaths, paths]))
    simp only [renderAll, render, hvalue, hrest]
  | call call source rest ih =>
    intro c d h hpaths
    have hrest := ih c d h fun p hp => hpaths p (by simp [allPaths, hp])
    have hvalue := call.evaluate_of_agree registry h fun p hp =>
      hpaths p (List.mem_append_left _ hp)
    simp only [renderAll, render, hvalue, hrest]
  | block o body closed rest ihbody ihrest =>
    intro c d h hpaths
    simp only [allPaths, paths, List.mem_append] at hpaths
    have hopener : ∀ p ∈ o.paths, p.Covered names := fun p hp => hpaths p (Or.inl (Or.inl hp))
    have hbody : ∀ p ∈ allPaths body, p.Covered names := fun p hp => hpaths p (Or.inl (Or.inr hp))
    have hrest := ihrest c d h fun p hp => hpaths p (Or.inr hp)
    -- an opener without a readable expression evaluates nothing, so only the loop needs new contexts
    rcases o with (_ | test) | ⟨binding, _ | iterable⟩
    · simp only [renderAll, render, Expression.test, ihbody c d h hbody, hrest]
    · have htest := test.evaluate_of_agree registry h hopener
      simp only [renderAll, render, Expression.test, htest, ihbody c d h hbody, hrest]
    · simp only [renderAll, render, hrest]
    · have hitems := iterable.evaluate_of_agree registry h hopener
      have hturn : (fun item : Option Value => renderAll registry (c.bind binding (item.getD .null)) body) =
          fun item => renderAll registry (d.bind binding (item.getD .null)) body :=
        funext fun item => ihbody _ _ (h.bind binding _) hbody
      simp only [renderAll, render, hitems, hturn, hrest]

/-- Two contexts that agree on the names of a source, and hold the same data of the conversation and of
the user, render the source alike: the same text, the same state of the host, and the same calls with the
same arguments, one after another. -/
theorem render_eq_of_agree (registry : Registry σ) (source : Text)
    (h : Context.Agree (· ∈ Template.namesOfSource source) c d) :
    Template.render registry c (Template.ofSource source) =
      Template.render registry d (Template.ofSource source) := by
  refine Node.renderAll_of_agree registry _ c d h fun p hp => ?_
  -- a head that is no root has no dollar sign, so the filter of the names keeps it
  rcases headed_of_ofSource source p hp with hroot | hroot | hplain
  · exact Or.inl hroot
  · exact Or.inr (Or.inl hroot)
  · exact Or.inr (Or.inr (Template.mem_names.2 ⟨hplain, p, hp, rfl⟩))

end Agreement

/-- A loop that shadows its binding, beside variables that the source does not name. -/
theorem render_eq_of_agree_loop :
    Context.Agree (· ∈ Template.namesOfSource "{for x in y}{x}{endfor}{f(z)}")
        ⟨[("y", .ofList [.text "a", .null]), ("w", .bool true)], [], []⟩
        ⟨[("v", .null), ("y", .ofList [.text "a", .null])], [], []⟩ ∧
      Template.render (.empty : Registry Unit)
          ⟨[("y", .ofList [.text "a", .null]), ("w", .bool true)], [], []⟩
          (Template.ofSource "{for x in y}{x}{endfor}{f(z)}") =
        Template.render .empty ⟨[("v", .null), ("y", .ofList [.text "a", .null])], [], []⟩
          (Template.ofSource "{for x in y}{x}{endfor}{f(z)}") := by
  have hnames : Template.namesOfSource "{for x in y}{x}{endfor}{f(z)}" =
      [Text.ofString "x", Text.ofString "y", Text.ofString "z"] := by
    decide +kernel
  have hagree : Context.Agree (· ∈ Template.namesOfSource "{for x in y}{x}{endfor}{f(z)}")
      ⟨[("y", .ofList [.text "a", .null]), ("w", .bool true)], [], []⟩
      ⟨[("v", .null), ("y", .ofList [.text "a", .null])], [], []⟩ := by
    refine ⟨rfl, rfl, fun name hname => ?_⟩
    rw [hnames] at hname
    simp only [List.mem_cons, List.not_mem_nil, or_false] at hname
    rcases hname with rfl | rfl | rfl <;> rfl
  exact ⟨hagree, render_eq_of_agree .empty _ hagree⟩

end BraceTemplate
