import BraceTemplate.Proofs.Digits
import BraceTemplate.Proofs.Mapping

/-!
# Mappings in order

A mapping that is built by putting keys has its indices first and ascending, and no key twice. Putting a key keeps this
order, wherever the key goes, and the entries of a mapping in order, put one after another, make up that mapping again.

* `eq_ofNat_of_arrayIndex?` — an index is written in one way, so two keys with one index are the same key;
* `Ordered.put`, `Ordered.putAll` — the order of mappings that are built;
* `ofList_of_ordered` — a mapping in order is built from itself.
-/

namespace BraceTemplate

/-- A key that is written like an index is the decimal form of the index. -/
theorem eq_ofNat_of_arrayIndex? {key : Text} {i : Nat} (h : arrayIndex? key = some i) : key = Text.ofNat i := by
  simp only [arrayIndex?, Bool.and_eq_true, Bool.or_eq_true, decide_eq_true_eq, bne_iff_ne, Bool.not_eq_true',
    List.isEmpty_eq_false_iff, List.all_eq_true, Option.ite_none_right_eq_some, Option.some.injEq] at h
  rcases h with ⟨⟨⟨⟨⟨-, hne⟩, hdigits⟩, hhead⟩, -⟩, rfl⟩
  exact (Text.ofNat_digitsValue hdigits hne hhead).symm

namespace Mapping

/-! ## The order of two keys -/

instance : DecidableRel Precedes := fun a b =>
  match ha : arrayIndex? a, hb : arrayIndex? b with
  | some i, some j => decidable_of_iff (i < j) (by simp [Precedes, ha, hb])
  | some _, none => isTrue (by simp [Precedes, ha, hb])
  | none, some _ => isFalse (by simp [Precedes, ha, hb])
  | none, none => decidable_of_iff (a ≠ b) (by simp [Precedes, ha, hb])

theorem Precedes.ne {a b : Text} (h : Precedes a b) : a ≠ b := by
  rintro rfl
  cases ha : arrayIndex? a with
  | none => simp [Precedes, ha] at h
  | some i => simp [Precedes, ha] at h

/-- A smaller index comes before all that a larger one comes before. -/
theorem Precedes.of_index_lt {a b c : Text} {i j : Nat} (ha : arrayIndex? a = some i) (hb : arrayIndex? b = some j)
    (hlt : i < j) (h : Precedes b c) : Precedes a c := by
  cases hc : arrayIndex? c with
  | none => simp [Precedes, ha, hc]
  | some k =>
    simp only [Precedes, hb, hc] at h
    simp only [Precedes, ha, hc]
    omega

/-- An index comes before a key that is none, and before all that this one comes before. -/
theorem Precedes.of_index {a b c : Text} {i : Nat} (ha : arrayIndex? a = some i) (hb : arrayIndex? b = none)
    (h : b = c ∨ Precedes b c) : Precedes a c := by
  have hc : arrayIndex? c = none := by
    rcases h with rfl | h
    · exact hb
    · cases hc : arrayIndex? c with
      | none => rfl
      | some k => simp [Precedes, hb, hc] at h
  simp [Precedes, ha, hc]

variable {α : Type u} {m : Mapping α} {key : Text} {value : α}

instance : Decidable m.Ordered :=
  inferInstanceAs (Decidable (m.keys.Pairwise Precedes))

theorem Ordered.nodup (h : m.Ordered) : m.keys.Nodup :=
  h.imp Precedes.ne

/-! ## Keys after putting -/

theorem keys_replace : (m.replace key value).keys = m.keys := by
  rw [keys, replace, List.map_map]
  apply List.map_congr_left
  rintro ⟨k, v⟩ -
  by_cases hk : k = key
  · simp [hk]
  · simp [hk]

/-- Nothing but the new entry is added. -/
theorem mem_of_mem_addIndex {index : Nat} {e : Text × α} (h : e ∈ m.addIndex index key value) :
    e = (key, value) ∨ e ∈ m := by
  induction m with
  | nil =>
    left
    exact List.mem_singleton.1 h
  | cons entry rest ih =>
    rcases entry with ⟨k, v⟩
    have hhere : e ∈ (key, value) :: (k, v) :: rest → e = (key, value) ∨ e ∈ (k, v) :: rest := List.mem_cons.1
    unfold addIndex at h
    split at h
    · split at h
      · rcases List.mem_cons.1 h with rfl | h
        · exact .inr List.mem_cons_self
        · exact (ih h).imp_right (List.mem_cons_of_mem _)
      · exact hhere h
    · exact hhere h

theorem mem_of_mem_put {e : Text × α} (h : e ∈ m.put key value) : e = (key, value) ∨ e ∈ m := by
  unfold put at h
  split at h
  · rcases List.mem_map.1 h with ⟨⟨k, v⟩, hold, rfl⟩
    by_cases hk : k = key
    · simp [hk]
    · right
      simpa [hk] using hold
  · split at h
    · exact mem_of_mem_addIndex h
    · rcases List.mem_append.1 h with h | h
      · exact .inr h
      · exact .inl (List.mem_singleton.1 h)

/-! ## Putting keeps the order -/

/-- A new index goes in front of the first key that it comes before, and so comes before all that follow. -/
theorem Ordered.addIndex {index : Nat} (h : m.Ordered) (hindex : arrayIndex? key = some index) (hnew : key ∉ m.keys) :
    (m.addIndex index key value).Ordered := by
  induction m with
  | nil => exact List.pairwise_singleton _ _
  | cons entry rest ih =>
    rcases entry with ⟨k, v⟩
    rw [keys, List.map_cons, List.mem_cons, not_or] at hnew
    rcases List.pairwise_cons.1 h with ⟨hfirst, hrest⟩
    unfold Mapping.addIndex
    cases hk : arrayIndex? k with
    | none =>
      refine List.pairwise_cons.2 ⟨?_, h⟩
      intro other hother
      rcases List.mem_cons.1 hother with rfl | hother
      · exact .of_index hindex hk (.inl rfl)
      · exact .of_index hindex hk (.inr (hfirst other hother))
    | some i =>
      simp only
      split
      · rename_i hlt
        refine List.pairwise_cons.2 ⟨?_, ih hrest hnew.2⟩
        intro other hother
        rcases List.mem_map.1 hother with ⟨e, he, rfl⟩
        rcases mem_of_mem_addIndex he with rfl | he
        · simpa [Precedes, hk, hindex] using hlt
        · exact hfirst e.1 (List.mem_map_of_mem he)
      · rename_i hle
        -- an equal index would be the same key
        have hne : index ≠ i := by
          rintro rfl
          exact hnew.1 ((eq_ofNat_of_arrayIndex? hindex).trans (eq_ofNat_of_arrayIndex? hk).symm)
        have hlt : index < i := by omega
        refine List.pairwise_cons.2 ⟨?_, h⟩
        intro other hother
        rcases List.mem_cons.1 hother with rfl | hother
        · simpa [Precedes, hk, hindex] using hlt
        · exact .of_index_lt hindex hk hlt (hfirst other hother)

theorem has_iff : m.has key ↔ key ∈ m.keys := by
  rw [has, Option.isSome_iff_ne_none, ne_eq, get?_eq_none_iff, not_not]

/-- A key that is put goes where the order wants it. -/
theorem Ordered.put (h : m.Ordered) (key : Text) (value : α) : (m.put key value).Ordered := by
  unfold Mapping.put
  split
  · rw [Ordered, keys_replace]
    exact h
  · rename_i hhas
    have hnew : key ∉ m.keys := by rwa [← has_iff]
    cases hkey : arrayIndex? key with
    | some index => exact h.addIndex hkey hnew
    | none =>
      rw [Ordered, keys, List.map_append, List.pairwise_append]
      refine ⟨h, List.pairwise_singleton _ _, ?_⟩
      intro k hk other hother
      rw [List.mem_singleton.1 hother]
      cases hindex : arrayIndex? k with
      | some i => simp [Precedes, hindex, hkey]
      | none =>
        simp only [Precedes, hindex, hkey]
        rintro rfl
        exact hnew hk

theorem Ordered.putAll (h : m.Ordered) (entries : List (Text × α)) : (m.putAll entries).Ordered := by
  induction entries generalizing m with
  | nil => exact h
  | cons e rest ih => exact ih (h.put e.1 e.2)

theorem mem_of_mem_putAll {entries : List (Text × α)} {e : Text × α} (h : e ∈ m.putAll entries) :
    e ∈ entries ∨ e ∈ m := by
  induction entries generalizing m with
  | nil => exact .inr h
  | cons first rest ih =>
    rcases ih h with h | h
    · exact .inl (List.mem_cons_of_mem _ h)
    · rcases mem_of_mem_put h with rfl | h
      · exact .inl List.mem_cons_self
      · exact .inr h

/-- To put a key adds it and no other one. -/
theorem mem_keys_put {k : Text} : k ∈ (m.put key value).keys ↔ k = key ∨ k ∈ m.keys := by
  rw [← has_iff, ← has_iff, has, has, get?_put]
  split
  · rename_i hk
    exact iff_of_true rfl (.inl hk)
  · rename_i hk
    exact (or_iff_right hk).symm

theorem mem_keys_putAll {entries : Mapping α} :
    key ∈ (m.putAll entries).keys ↔ key ∈ m.keys ∨ key ∈ entries.keys := by
  induction entries generalizing m with
  | nil => exact (or_iff_left List.not_mem_nil).symm
  | cons e rest ih =>
    have hstep : key ∈ (m.putAll (e :: rest)).keys ↔ key ∈ (m.put e.1 e.2).keys ∨ key ∈ keys rest := ih
    have hcons : key ∈ keys (e :: rest) ↔ key = e.1 ∨ key ∈ keys rest := List.mem_cons
    rw [hstep, mem_keys_put, hcons, or_assoc, or_left_comm]

theorem mem_keys_ofList {entries : Mapping α} : key ∈ (ofList entries).keys ↔ key ∈ entries.keys :=
  mem_keys_putAll.trans (or_iff_right List.not_mem_nil)

/-! ## A mapping in order is built from itself -/

/-- An index that all keys come before goes to the end. -/
theorem addIndex_of_precedes {index : Nat} (hindex : arrayIndex? key = some index)
    (h : ∀ k ∈ m.keys, Precedes k key) : m.addIndex index key value = m ++ [(key, value)] := by
  induction m with
  | nil => rfl
  | cons entry rest ih =>
    rcases entry with ⟨k, v⟩
    rw [keys, List.map_cons, List.forall_mem_cons] at h
    have hk := h.1
    unfold addIndex
    cases hfirst : arrayIndex? k with
    | none => simp [Precedes, hfirst, hindex] at hk
    | some i =>
      simp only [Precedes, hfirst, hindex] at hk
      simp only [if_pos hk, ih h.2, List.cons_append]

theorem put_of_precedes (h : ∀ k ∈ m.keys, Precedes k key) : m.put key value = m ++ [(key, value)] := by
  have hnew : ¬ m.has key := by
    intro hhas
    exact (h key (has_iff.1 hhas)).ne rfl
  unfold put
  rw [if_neg hnew]
  cases hindex : arrayIndex? key with
  | some index => exact addIndex_of_precedes hindex h
  | none => rfl

/-- Entries in order, after those that are there, are put in their places as they stand. -/
theorem putAll_of_ordered {entries : List (Text × α)} (h : Ordered (m ++ entries)) :
    m.putAll entries = m ++ entries := by
  induction entries generalizing m with
  | nil => exact (List.append_nil m).symm
  | cons e rest ih =>
    have hall := h
    rw [Ordered, keys, List.map_append, List.pairwise_append] at hall
    have hfirst : ∀ k ∈ m.keys, Precedes k e.1 := by
      intro k hk
      exact hall.2.2 k hk e.1 List.mem_cons_self
    have hput : m.put e.1 e.2 = m ++ [e] := put_of_precedes hfirst
    have hshift : m ++ e :: rest = (m ++ [e]) ++ rest := by simp
    rw [hshift] at h ⊢
    rw [← ih h, ← hput]
    rfl

theorem ofList_of_ordered (h : m.Ordered) : ofList m = m :=
  putAll_of_ordered (m := []) h

end Mapping

end BraceTemplate
