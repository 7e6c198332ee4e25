import Mathlib.Data.List.Forall2
import Mathlib.Data.List.ReduceOption
import Mathlib.Data.Option.Basic

/-!
# Lists compared place by place

Converting a list, laying one out in a heap and unfolding one keep its length, and lists may have gaps, which stay where
they are. So lists are compared place by place: by what stands at each place (`List.Forall₂`), and where there may be
gaps by the gaps first (`SameGaps`) and then by the items, beside the gaps (`Option.Rel`) or without them
(`List.reduceOption`).

* `forall₂_iff_getElem?`, `forall₂_rel_iff_getElem?` — both comparisons, said of each place;
* `forall₂_rel_of_items`, `eq_of_items` — lists with the same gaps are compared by their items alone;
* `exists_sameGaps` — items fill the places of other items.
-/

namespace BraceTemplate

section Lists

variable {α β : Type} {R : α → β → Prop} {l : List α} {l' : List β}

theorem forall₂_iff_getElem? : List.Forall₂ R l l' ↔ l.length = l'.length ∧
    ∀ (i : Nat) (a : α) (b : β), l[i]? = some a → l'[i]? = some b → R a b := by
  rw [List.forall₂_iff_get]
  constructor
  · intro h
    rcases h with ⟨hlength, hall⟩
    refine ⟨hlength, ?_⟩
    intro i a b ha hb
    rcases List.getElem?_eq_some_iff.1 ha with ⟨hi, rfl⟩
    rcases List.getElem?_eq_some_iff.1 hb with ⟨hi', rfl⟩
    exact hall i hi hi'
  · intro h
    rcases h with ⟨hlength, hall⟩
    refine ⟨hlength, ?_⟩
    intro i hi hi'
    exact hall i _ _ (List.getElem?_eq_getElem hi) (List.getElem?_eq_getElem hi')

theorem exists_forall₂_of_forall_mem (hall : ∀ a ∈ l, ∃ b, R a b) : ∃ l', List.Forall₂ R l l' := by
  induction l with
  | nil => exact ⟨[], .nil⟩
  | cons a l ih =>
    rcases List.forall_mem_cons.1 hall with ⟨⟨b, hb⟩, hrest⟩
    rcases ih hrest with ⟨l', hl'⟩
    exact ⟨b :: l', .cons hb hl'⟩

theorem exists_of_mem_forall₂ (h : List.Forall₂ R l l') {b : β} (hb : b ∈ l') : ∃ a ∈ l, R a b := by
  induction h with
  | nil => cases hb
  | cons hfirst _ ih =>
    rcases List.mem_cons.1 hb with rfl | hb
    · exact ⟨_, List.mem_cons_self, hfirst⟩
    · rcases ih hb with ⟨a, ha, hR⟩
      exact ⟨a, List.mem_cons_of_mem _ ha, hR⟩

theorem forall₂_of_fst_snd {γ : Type} {l : List (γ × α)} {l' : List (γ × β)} (hfst : l.map Prod.fst = l'.map Prod.fst)
    (hsnd : List.Forall₂ R (l.map Prod.snd) (l'.map Prod.snd)) :
    List.Forall₂ (fun a b => a.1 = b.1 ∧ R a.2 b.2) l l' := by
  rw [← List.forall₂_eq_eq_eq, List.forall₂_map_left_iff, List.forall₂_map_right_iff] at hfst
  rw [List.forall₂_map_left_iff, List.forall₂_map_right_iff] at hsnd
  induction hfst with
  | nil => exact .nil
  | cons heq _ ih =>
    cases hsnd with
    | cons hR hrest => exact .cons ⟨heq, hR⟩ (ih hrest)

end Lists

/-! ## Gaps -/

section Gaps

variable {α β : Type} {R : α → β → Prop} {l : List (Option α)} {l' : List (Option β)}

/-- Whether two lists are of one length and have gaps at the same places. -/
abbrev SameGaps (l : List (Option α)) (l' : List (Option β)) : Prop :=
  l.map Option.isSome = l'.map Option.isSome

theorem mem_reduceOption_of_getElem? {i : Nat} {a : α} (h : l[i]? = some (some a)) : a ∈ l.reduceOption :=
  List.reduceOption_mem_iff.2 (List.mem_of_getElem? h)

/-- Without gaps a list is its items. -/
theorem map_some_reduceOption (h : none ∉ l) : l.reduceOption.map some = l := by
  induction l with
  | nil => rfl
  | cons item l ih =>
    rw [List.mem_cons, not_or] at h
    rcases Option.ne_none_iff_exists'.1 (Ne.symm h.1) with ⟨a, rfl⟩
    rw [List.reduceOption_cons_of_some, List.map_cons, ih h.2]

/-- Where one list has an item, the other has one. -/
theorem SameGaps.exists_getElem? (hgaps : SameGaps l l') {i : Nat} {b : β} (hb : l'[i]? = some (some b)) :
    ∃ a, l[i]? = some (some a) := by
  have hi : (l.map Option.isSome)[i]? = some true := by
    rw [hgaps, List.getElem?_map, hb, Option.map_some, Option.isSome_some]
  rw [List.getElem?_map] at hi
  rcases Option.map_eq_some_iff.1 hi with ⟨item, hitem, hsome⟩
  rcases Option.isSome_iff_exists.1 hsome with ⟨a, rfl⟩
  exact ⟨a, hitem⟩

theorem forall₂_rel_iff_getElem? : List.Forall₂ (Option.Rel R) l l' ↔ SameGaps l l' ∧
    ∀ (i : Nat) (a : α) (b : β), l[i]? = some (some a) → l'[i]? = some (some b) → R a b := by
  constructor
  · intro h
    constructor
    · rw [SameGaps, ← List.forall₂_eq_eq_eq, List.forall₂_map_left_iff, List.forall₂_map_right_iff]
      refine h.imp fun item item' hitem => ?_
      cases hitem <;> rfl
    · intro i a b ha hb
      exact Option.rel_some_some.1 ((forall₂_iff_getElem?.1 h).2 i _ _ ha hb)
  · intro h
    rcases h with ⟨hgaps, hitems⟩
    have hlength : l.length = l'.length := by simpa using congrArg List.length hgaps
    refine forall₂_iff_getElem?.2 ⟨hlength, ?_⟩
    intro i item item' hitem hitem'
    match item, item' with
    | none, none => exact .none
    | some a, some b => exact .some (hitems i a b hitem hitem')
    -- a gap beside an item cannot be: the other list would have an item there too
    | none, some b =>
      rcases hgaps.exists_getElem? hitem' with ⟨a, ha⟩
      cases hitem.symm.trans ha
    | some a, none =>
      rcases SameGaps.exists_getElem? hgaps.symm hitem with ⟨b, hb⟩
      cases hitem'.symm.trans hb

/-- Lists with the same gaps are related place by place if their items are, one after another. -/
theorem forall₂_rel_of_items (hgaps : SameGaps l l') (hitems : List.Forall₂ R l.reduceOption l'.reduceOption) :
    List.Forall₂ (Option.Rel R) l l' := by
  induction l generalizing l' with
  | nil =>
    obtain rfl : l' = [] := List.map_eq_nil_iff.1 hgaps.symm
    exact .nil
  | cons item l ih =>
    rcases List.map_eq_cons_iff.1 hgaps.symm with ⟨item', rest, rfl, hitem, hrest⟩
    -- the first places are both gaps or both items, and only items count for the rest
    match item, item', hitem with
    | none, none, _ =>
      rw [List.reduceOption_cons_of_none, List.reduceOption_cons_of_none] at hitems
      exact .cons .none (ih hrest.symm hitems)
    | some a, some b, _ =>
      rw [List.reduceOption_cons_of_some, List.reduceOption_cons_of_some] at hitems
      rcases List.forall₂_cons.1 hitems with ⟨hR, hfurther⟩
      exact .cons (.some hR) (ih hrest.symm hfurther)

theorem eq_of_forall₂_rel {l l' : List (Option α)} (h : List.Forall₂ (Option.Rel Eq) l l') : l = l' := by
  rw [← List.forall₂_eq_eq_eq]
  refine h.imp fun item item' hitem => ?_
  cases hitem with
  | some heq => exact congrArg some heq
  | none => rfl

theorem eq_of_items {l l' : List (Option α)} (hgaps : SameGaps l l') (hitems : l.reduceOption = l'.reduceOption) :
    l = l' := by
  rw [← List.forall₂_eq_eq_eq] at hitems
  exact eq_of_forall₂_rel (forall₂_rel_of_items hgaps hitems)

/-- Items fill the places of as many others, and leave the gaps between them. -/
theorem exists_sameGaps (l : List (Option α)) (items : List β) (hlength : l.reduceOption.length = items.length) :
    ∃ filled : List (Option β), SameGaps l filled ∧ filled.reduceOption = items := by
  induction l generalizing items with
  | nil => exact ⟨[], rfl, (List.eq_nil_of_length_eq_zero hlength.symm).symm⟩
  | cons item l ih =>
    -- a gap is kept and takes none of the items, an item gives its place to the next of them
    cases item with
    | none =>
      rw [List.reduceOption_cons_of_none] at hlength
      rcases ih items hlength with ⟨filled, hgaps, hitems⟩
      exact ⟨none :: filled, congrArg _ hgaps, hitems⟩
    | some a =>
      rw [List.reduceOption_cons_of_some, List.length_cons] at hlength
      rcases List.exists_cons_of_length_eq_add_one hlength.symm with ⟨b, rest, rfl⟩
      rcases ih rest (Nat.succ.inj hlength) with ⟨filled, hgaps, hitems⟩
      refine ⟨some b :: filled, congrArg _ hgaps, ?_⟩
      rw [List.reduceOption_cons_of_some, hitems]

end Gaps

end BraceTemplate
