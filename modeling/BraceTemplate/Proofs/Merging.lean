import BraceTemplate.Proofs.Representations

/-!
# Merging

Merging puts the keys of one mapping over those of another. A mapping in order is determined by what its keys hold and
by the order of the keys that are no indices, and both are simple to say of a merge: the overlay's keys hold what they
hold there, and its new keys follow those of the base. So contexts are a monoid under merging, with the empty one.

* `Ordered.ext` — what a mapping in order is determined by;
* `get?_putAll`, `plainKeys_putAll` — both, of a merge;
* `merge_assoc` — it does not matter which of three mappings are merged first;
* `merging_overrides` — the laws of merging for contexts, and what paths read in a merge.
-/

namespace BraceTemplate

namespace Mapping

variable {α : Type u} {m n : Mapping α} {key : Text} {value : α}

/-! ## What determines a mapping in order -/

/-- The keys that are no indices, in order. -/
def plainKeys (m : Mapping α) : List Text :=
  m.keys.filter fun key => (arrayIndex? key).isNone

/-- Keys in order begin with the same key if they are the same keys and those that are no indices are in the same
order. -/
theorem head_eq_of_precedes {a b : Text} {l r : List Text} (ha : ∀ k ∈ l, Precedes a k)
    (hb : ∀ k ∈ r, Precedes b k) (hmem : ∀ k, k ∈ a :: l ↔ k ∈ b :: r)
    (hplain : ((a :: l).filter fun k => (arrayIndex? k).isNone) = (b :: r).filter fun k => (arrayIndex? k).isNone) :
    a = b := by
  rcases List.mem_cons.1 ((hmem a).1 List.mem_cons_self) with hab | har
  · exact hab
  rcases List.mem_cons.1 ((hmem b).2 List.mem_cons_self) with hba | hbl
  · exact hba.symm
  -- each of the two comes before the other, which indices do not
  have hba := hb a har
  have hab := ha b hbl
  cases hia : arrayIndex? a with
  | some i =>
    cases hib : arrayIndex? b with
    | some j =>
      simp only [Precedes, hia, hib] at hab hba
      omega
    | none => simp [Precedes, hia, hib] at hba
  | none =>
    cases hib : arrayIndex? b with
    | some j => simp [Precedes, hia, hib] at hab
    | none =>
      simp only [List.filter_cons, hia, hib, Option.isNone_none, if_true, List.cons.injEq] at hplain
      exact hplain.1

/-- The first key is none of those after it. -/
theorem mem_rest_iff {a k : Text} {l : List Text} (ha : ∀ k ∈ l, Precedes a k) : k ∈ l ↔ k ≠ a ∧ k ∈ a :: l := by
  constructor
  · intro hk
    exact ⟨(ha k hk).ne.symm, List.mem_cons_of_mem _ hk⟩
  · rintro ⟨hne, hk⟩
    exact (List.mem_cons.1 hk).resolve_left hne

theorem eq_of_pairwise_precedes {l r : List Text} (hl : l.Pairwise Precedes) (hr : r.Pairwise Precedes)
    (hmem : ∀ k, k ∈ l ↔ k ∈ r)
    (hplain : (l.filter fun k => (arrayIndex? k).isNone) = r.filter fun k => (arrayIndex? k).isNone) : l = r := by
  induction l generalizing r with
  | nil => exact (List.eq_nil_iff_forall_not_mem.2 fun k hk => List.not_mem_nil ((hmem k).2 hk)).symm
  | cons a l ih =>
    cases r with
    | nil => exact absurd ((hmem a).1 List.mem_cons_self) List.not_mem_nil
    | cons b r =>
      rcases List.pairwise_cons.1 hl with ⟨ha, hlrest⟩
      rcases List.pairwise_cons.1 hr with ⟨hb, hrrest⟩
      obtain rfl := head_eq_of_precedes ha hb hmem hplain
      have hrest : ∀ k, k ∈ l ↔ k ∈ r := by
        intro k
        rw [mem_rest_iff ha, mem_rest_iff hb, hmem]
      have hplain' : (l.filter fun k => (arrayIndex? k).isNone) = r.filter fun k => (arrayIndex? k).isNone := by
        rw [List.filter_cons, List.filter_cons] at hplain
        split at hplain
        · exact (List.cons.inj hplain).2
        · exact hplain
      rw [ih hlrest hrrest hrest hplain']

/-- Two mappings in order are the same if their keys hold the same and their plain keys are in the same order. -/
theorem Ordered.ext (hm : m.Ordered) (hn : n.Ordered) (hget : ∀ key, m.get? key = n.get? key)
    (hplain : m.plainKeys = n.plainKeys) : m = n := by
  have hkeys : m.keys = n.keys := by
    apply eq_of_pairwise_precedes hm hn ?_ hplain
    intro key
    rw [← has_iff, ← has_iff, has, has, hget]
  apply eq_of_keys_eq hkeys
  intro i e f he hf
  have hkey : e.1 = f.1 := by
    have hindex : m.keys[i]? = n.keys[i]? := congrArg (·[i]?) hkeys
    simpa [keys, he, hf] using hindex
  have hfound := (get?_eq_some_iff hm.nodup).2 (List.mem_of_getElem? he)
  rw [hget, hkey, (get?_eq_some_iff hn.nodup).2 (List.mem_of_getElem? hf)] at hfound
  exact (Option.some.inj hfound).symm

/-! ## What is in a merge -/

theorem plainKeys_cons (k : Text) (v : α) (rest : Mapping α) :
    plainKeys ((k, v) :: rest) = if (arrayIndex? k).isNone then k :: plainKeys rest else plainKeys rest :=
  List.filter_cons

theorem plainKeys_addIndex {index : Nat} (hindex : arrayIndex? key = some index) :
    (m.addIndex index key value).plainKeys = m.plainKeys := by
  have hhere : ∀ rest : Mapping α, plainKeys ((key, value) :: rest) = rest.plainKeys := by
    intro rest
    rw [plainKeys_cons, if_neg (by simp [hindex])]
  induction m with
  | nil => exact hhere []
  | cons entry rest ih =>
    unfold addIndex
    split
    · split
      · rw [plainKeys_cons, ih]
        exact (plainKeys_cons ..).symm
      · exact hhere _
    · exact hhere _

theorem plainKeys_append : plainKeys (m ++ n) = m.plainKeys ++ n.plainKeys := by
  rw [plainKeys, keys, List.map_append, List.filter_append]
  rfl

/-- A plain key that is new goes to the end; any other key leaves the plain keys as they are. -/
theorem plainKeys_put :
    (m.put key value).plainKeys = m.plainKeys ++ (plainKeys [(key, value)]).filter fun k => !m.has k := by
  have honly : ∀ k ∈ plainKeys [(key, value)], k = key :=
    fun k hk => List.mem_singleton.1 (List.mem_filter.1 hk).1
  unfold put
  split
  · rename_i hhas
    have hold : ((plainKeys [(key, value)]).filter fun k => !m.has k) = [] :=
      List.filter_eq_nil_iff.2 fun k hk => by simp [honly k hk, hhas]
    rw [hold, List.append_nil, plainKeys, keys_replace]
    rfl
  · rename_i hhas
    split
    · rename_i hindex
      have hnone : plainKeys [(key, value)] = [] := by
        rw [plainKeys_cons, if_neg (by simp [hindex])]
        rfl
      rw [plainKeys_addIndex hindex, hnone, List.filter_nil, List.append_nil]
    · rename_i hindex
      have hnew : ((plainKeys [(key, value)]).filter fun k => !m.has k) = plainKeys [(key, value)] :=
        List.filter_eq_self.2 fun k hk => by simp [honly k hk, hhas]
      rw [hnew, plainKeys_append]

theorem get?_putAll (hn : n.keys.Nodup) (key : Text) : (m.putAll n).get? key = (n.get? key).or (m.get? key) := by
  induction n generalizing m with
  | nil => rfl
  | cons e rest ih =>
    rcases e with ⟨k, v⟩
    rcases List.nodup_cons.1 hn with ⟨hnew, hrest⟩
    have hstep : (m.putAll ((k, v) :: rest)).get? key = (get? rest key).or ((m.put k v).get? key) := ih hrest
    rw [hstep, get?_put, get?_cons]
    by_cases hk : key = k
    · rw [if_pos hk, if_pos hk, get?_eq_none_iff.2 (hk ▸ hnew)]
      rfl
    · rw [if_neg hk, if_neg hk]

theorem plainKeys_putAll (hn : n.keys.Nodup) :
    (m.putAll n).plainKeys = m.plainKeys ++ n.plainKeys.filter fun key => !m.has key := by
  induction n generalizing m with
  | nil => exact (List.append_nil _).symm
  | cons e rest ih =>
    rcases e with ⟨k, v⟩
    rcases List.nodup_cons.1 hn with ⟨hnew, hrest⟩
    have hstep : (m.putAll ((k, v) :: rest)).plainKeys =
      (m.put k v).plainKeys ++ (plainKeys rest).filter fun key => !(m.put k v).has key := ih hrest
    -- the keys after the first one are new to the mapping with it if they are to that without it
    have hsame : ((plainKeys rest).filter fun key => !(m.put k v).has key) =
        (plainKeys rest).filter fun key => !m.has key := by
      apply List.filter_congr
      intro key hkey
      have hne : key ≠ k := by
        rintro rfl
        exact hnew (List.mem_filter.1 hkey).1
      rw [has, has, get?_put, if_neg hne]
    rw [hstep, hsame, plainKeys_put, List.append_assoc, ← List.filter_append, ← plainKeys_append]
    rfl

/-! ## Merging -/

theorem has_putAll (hn : n.keys.Nodup) (key : Text) : (m.putAll n).has key = (m.has key || n.has key) := by
  rw [has, get?_putAll hn, Option.isSome_or, Bool.or_comm]
  rfl

/-- It does not matter whether the second mapping is put over the first or put under the third one before. -/
theorem merge_assoc {k : Mapping α} (hm : m.Ordered) (hn : n.Ordered) (hk : k.Ordered) :
    (m.merge n).merge k = m.merge (n.merge k) := by
  have hinner : (n.putAll k).Ordered := hn.putAll k
  apply Ordered.ext ((hm.putAll n).putAll k) (hm.putAll (n.putAll k))
  · intro key
    rw [get?_putAll hk.nodup, get?_putAll hn.nodup, get?_putAll hinner.nodup, get?_putAll hk.nodup, Option.or_assoc]
  · have hnew : (k.plainKeys.filter fun key => !(m.putAll n).has key) =
        k.plainKeys.filter fun key => !m.has key && !n.has key := by
      apply List.filter_congr
      intro key _
      rw [has_putAll hn.nodup, Bool.not_or]
    rw [plainKeys_putAll hk.nodup, plainKeys_putAll hn.nodup, plainKeys_putAll hinner.nodup, plainKeys_putAll hk.nodup,
      List.filter_append, List.filter_filter, List.append_assoc, hnew]

/-- A mapping in order is put over nothing as it is. -/
theorem empty_merge (hm : m.Ordered) : merge [] m = m :=
  ofList_of_ordered hm

end Mapping

theorem Value.path?_mapping (m : Mapping Value) (key : Text) (keys : List Text) :
    (mapping m).path? (key :: keys) = (m.get? key).bind fun v => v.path? keys := by
  rw [path?]
  cases m.get? key <;> rfl

/-- A path reads in the overlay if its first key is there, whatever it holds, and else in the base. -/
theorem Value.path?_merge {base overlay : Mapping Value} (hoverlay : overlay.keys.Nodup) (key : Text) (keys : List Text) :
    (mapping (base.merge overlay)).path? (key :: keys) =
      if overlay.has key then (mapping overlay).path? (key :: keys) else (mapping base).path? (key :: keys) := by
  have hget : (base.merge overlay).get? key = (overlay.get? key).or (base.get? key) := Mapping.get?_putAll hoverlay key
  rw [path?_mapping, path?_mapping, path?_mapping, hget, Mapping.has]
  cases overlay.get? key with
  | none => rfl
  | some v => rfl

namespace Context

/-- The keys of all three namespaces are in order. -/
structure Ordered (ctx : Context) : Prop where
  bindings : ctx.bindings.Ordered
  conversationData : ctx.conversationData.Ordered
  userData : ctx.userData.Ordered

variable {a b c : Context}

/-- Contexts that are made are in order. -/
theorem IsNormal.ordered (h : a.IsNormal) : a.Ordered :=
  ⟨(Value.isNormal_mapping_iff.1 h.bindings).1, (Value.isNormal_mapping_iff.1 h.conversationData).1,
    (Value.isNormal_mapping_iff.1 h.userData).1⟩

theorem merge_assoc (ha : a.Ordered) (hb : b.Ordered) (hc : c.Ordered) :
    (a.merge b).merge c = a.merge (b.merge c) := by
  simp only [merge, Mapping.merge_assoc ha.bindings hb.bindings hc.bindings,
    Mapping.merge_assoc ha.conversationData hb.conversationData hc.conversationData,
    Mapping.merge_assoc ha.userData hb.userData hc.userData]

theorem empty_merge (ha : a.Ordered) : empty.merge a = a := by
  simp only [merge, empty, Mapping.empty_merge ha.bindings, Mapping.empty_merge ha.conversationData,
    Mapping.empty_merge ha.userData]

end Context

/-- Contexts are a monoid under merging, and a merge reads as the overlay does where that has the first key.

For all contexts whose keys are in order, as they are in every context that is made: merging is associative, the empty
context is neutral on both sides, each with the order of all keys. A path that begins in the variables, or goes on behind
a root, reads what it reads in the overlay if the overlay's namespace has the first key there, whatever that holds, and
else what it reads in the base; a root by itself is the merged namespace. To bind a variable is to merge with a context
that has that variable only. -/
theorem merging_overrides {a b c : Context} (ha : a.Ordered) (hb : b.Ordered) (hc : c.Ordered) :
    (a.merge b).merge c = a.merge (b.merge c) ∧
    Context.empty.merge a = a ∧ a.merge Context.empty = a ∧
    (∀ key keys, key ≠ Name.conversationRoot → key ≠ Name.userRoot → (a.merge b).resolve? (key :: keys) =
      if b.bindings.has key then b.resolve? (key :: keys) else a.resolve? (key :: keys)) ∧
    (∀ key keys, (a.merge b).resolve? (Name.conversationRoot :: key :: keys) =
      if b.conversationData.has key then b.resolve? (Name.conversationRoot :: key :: keys)
      else a.resolve? (Name.conversationRoot :: key :: keys)) ∧
    (∀ key keys, (a.merge b).resolve? (Name.userRoot :: key :: keys) =
      if b.userData.has key then b.resolve? (Name.userRoot :: key :: keys)
      else a.resolve? (Name.userRoot :: key :: keys)) ∧
    (a.merge b).resolve? [Name.conversationRoot] = some (.mapping (a.conversationData.merge b.conversationData)) ∧
    (a.merge b).resolve? [Name.userRoot] = some (.mapping (a.userData.merge b.userData)) ∧
    (∀ name v, v.normalise = v → a.bind name v = a.merge ⟨[(name, v)], [], []⟩ ∧
      ∀ data : Data, data.Represents v → a.bindData name data = .ok (a.merge ⟨[(name, v)], [], []⟩)) := by
  have hroots : Name.userRoot ≠ Name.conversationRoot := by decide
  refine ⟨Context.merge_assoc ha hb hc, Context.empty_merge ha, rfl, ?_, ?_, ?_, rfl, ?_, ?_⟩
  · intro key keys hconversation huser
    simp only [Context.resolve?, if_neg hconversation, if_neg huser]
    exact Value.path?_merge hb.bindings.nodup key keys
  · intro key keys
    exact Value.path?_merge hb.conversationData.nodup key keys
  · intro key keys
    simp only [Context.resolve?, if_neg hroots, if_true]
    exact Value.path?_merge hb.userData.nodup key keys
  · simp only [Context.resolve?, if_neg hroots, if_true]
    rfl
  · intro name v hv
    have hbind : a.bind name v = a.merge ⟨[(name, v)], [], []⟩ := by
      rw [Context.bind, hv]
      rfl
    refine ⟨hbind, ?_⟩
    intro data hdata
    rw [← hbind, Context.bindData, hdata.toValue_eq]
    rfl

/-- Indices go to the front, a replaced key keeps its place, and a null in the overlay hides what the base has. -/
theorem merging_overrides_null :
    let a : Context := ⟨[("2", .text "a"), ("x", .text "a"), ("__proto__", .null)], [("k", .mapping [("y", .text "a")])], []⟩
    let b : Context := ⟨[("x", .text "b"), ("y", .text "b")], [("k", .null)], [("k", .text "b")]⟩
    let c : Context := ⟨[("1", .text "c"), ("x", .text "c")], [], []⟩
    (a.Ordered ∧ b.Ordered ∧ c.Ordered) ∧
    a.merge (b.merge c) = ⟨[("1", .text "c"), ("2", .text "a"), ("x", .text "c"), ("__proto__", .null), ("y", .text "b")],
      [("k", .null)], [("k", .text "b")]⟩ ∧
    (a.merge b).resolve? [Name.conversationRoot, "k", "y"] = none ∧
    a.bind "1" .null = a.merge ⟨[("1", .null)], [], []⟩ := by
  intro a b c
  have ha : a.Ordered := ⟨by decide, by decide, by decide⟩
  have hb : b.Ordered := ⟨by decide, by decide, by decide⟩
  have hc : c.Ordered := ⟨by decide, by decide, by decide⟩
  rcases merging_overrides ha hb hc with ⟨hassoc, -, -, -, hconversation, -, -, -, hbind⟩
  refine ⟨⟨ha, hb, hc⟩, ?_, ?_, (hbind "1" .null rfl).1⟩
  · rw [← hassoc]
    rfl
  · rw [hconversation]
    rfl

end BraceTemplate
