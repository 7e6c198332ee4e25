import BraceTemplate.Mapping

/-!
# Looking up in mappings

Where a put key ends up depends on its form, but not what can be looked up afterwards: the key holds
the new value and every other key holds what it held. No order of the keys is assumed.
-/

namespace BraceTemplate

namespace Mapping

variable {α : Type u}

@[simp] theorem get?_nil (key : Text) : get? ([] : Mapping α) key = none := rfl

theorem get?_cons (k : Text) (v : α) (rest : Mapping α) (key : Text) :
    get? ((k, v) :: rest) key = if key = k then some v else get? rest key := by
  by_cases h : key = k
  · subst h
    simp [get?]
  · have hne : (key == k) = false := beq_eq_false_iff_ne.mpr h
    simp [get?, List.lookup_cons, h, hne]

/-- Replacing changes what the key holds, if it is there, and nothing else. -/
theorem get?_replace (m : Mapping α) (key : Text) (value : α) (k : Text) :
    get? (replace m key value) k =
      if k = key then (get? m key).map (fun _ => value) else get? m k := by
  induction m with
  | nil => simp [replace]
  | cons entry rest ih =>
    rcases entry with ⟨k', v⟩
    rw [replace] at ih ⊢
    by_cases hk' : k' = key
    · subst hk'
      simp only [List.map_cons, if_true, get?_cons, ih]
      by_cases hk : k = k' <;> simp [hk]
    · have hkey : key ≠ k' := fun h => hk' h.symm
      simp only [List.map_cons, if_neg hk', get?_cons, ih, if_neg hkey]
      by_cases hk : k = key
      · subst hk
        simp [hkey]
      · simp [hk]

/-- A new index is found under its key, wherever it was put in. -/
theorem get?_addIndex (m : Mapping α) (index : Nat) (key : Text) (value : α) (k : Text)
    (hnew : get? m key = none) :
    get? (addIndex m index key value) k = if k = key then some value else get? m k := by
  induction m with
  | nil => simp [addIndex, get?_cons]
  | cons entry rest ih =>
    rcases entry with ⟨k', v⟩
    rw [get?_cons] at hnew
    have hkey : key ≠ k' := by
      intro h
      simp [h] at hnew
    rw [if_neg hkey] at hnew
    -- either the index goes in here, or it goes in further on
    have hhere : get? ((key, value) :: (k', v) :: rest) k =
        if k = key then some value else get? ((k', v) :: rest) k := get?_cons key value _ k
    have hlater : get? ((k', v) :: addIndex rest index key value) k =
        if k = key then some value else get? ((k', v) :: rest) k := by
      rw [get?_cons, get?_cons, ih hnew]
      by_cases hk : k = key
      · subst hk
        simp [hkey]
      · simp [hk]
    unfold addIndex
    split
    · split
      · exact hlater
      · exact hhere
    · exact hhere

/-- A new key at the end is found there. -/
theorem get?_append_new (m : Mapping α) (key : Text) (value : α) (k : Text)
    (hnew : get? m key = none) :
    get? (m ++ [(key, value)]) k = if k = key then some value else get? m k := by
  induction m with
  | nil => simp [get?_cons]
  | cons entry rest ih =>
    rcases entry with ⟨k', v⟩
    rw [get?_cons] at hnew
    have hkey : key ≠ k' := by
      intro h
      simp [h] at hnew
    rw [if_neg hkey] at hnew
    rw [List.cons_append, get?_cons, get?_cons, ih hnew]
    by_cases hk : k = key
    · subst hk
      simp [hkey]
    · simp [hk]

/-- A put key holds the new value, and every other key holds what it held. -/
theorem get?_put (m : Mapping α) (key : Text) (value : α) (k : Text) :
    get? (put m key value) k = if k = key then some value else get? m k := by
  unfold put
  by_cases hhas : has m key = true
  · rw [if_pos hhas, get?_replace]
    obtain ⟨old, hold⟩ := Option.isSome_iff_exists.1 hhas
    simp [hold]
  · have hnew : get? m key = none := by
      simpa [has] using hhas
    rw [if_neg hhas]
    split
    · exact get?_addIndex m _ key value k hnew
    · exact get?_append_new m key value k hnew

/-! ## Keys and entries -/

/-- Nothing is found under a key exactly if it is not one of the keys. -/
theorem get?_eq_none_iff {m : Mapping α} {key : Text} : get? m key = none ↔ key ∉ keys m := by
  induction m with
  | nil => simp
  | cons entry rest ih =>
    rcases entry with ⟨k, v⟩
    rw [get?_cons, keys, List.map_cons, List.mem_cons, not_or, ← ih]
    by_cases hk : key = k
    · simp [hk]
    · simp [hk]

/-- What is found under a key is one of the entries. -/
theorem mem_of_get? {m : Mapping α} {key : Text} {v : α} (h : get? m key = some v) : (key, v) ∈ m := by
  induction m with
  | nil => cases h
  | cons entry rest ih =>
    rcases entry with ⟨k, w⟩
    rw [get?_cons] at h
    split at h
    · rename_i hk
      rw [hk, Option.some.inj h]
      exact List.mem_cons_self
    · exact List.mem_cons_of_mem _ (ih h)

theorem mem_keys_of_get? {m : Mapping α} {key : Text} {v : α} (h : get? m key = some v) : key ∈ keys m :=
  List.mem_map.2 ⟨(key, v), mem_of_get? h, rfl⟩

/-- Where no key occurs twice, every entry is found under its key. -/
theorem get?_eq_some_iff {m : Mapping α} (hkeys : (keys m).Nodup) {key : Text} {v : α} :
    get? m key = some v ↔ (key, v) ∈ m := by
  constructor
  · exact mem_of_get?
  · intro hmem
    induction m with
    | nil => cases hmem
    | cons entry rest ih =>
      rcases entry with ⟨k, w⟩
      rcases List.nodup_cons.1 hkeys with ⟨hnew, hrest⟩
      rw [get?_cons]
      rcases List.mem_cons.1 hmem with heq | hlater
      · cases heq
        exact if_pos rfl
      · have hkey : key ∈ keys rest := List.mem_map.2 ⟨(key, v), hlater, rfl⟩
        have hne : key ≠ k := by
          rintro rfl
          exact hnew hkey
        rw [if_neg hne]
        exact ih hrest hlater

/-- Entries with the same keys and the same values, one by one, are the same. -/
theorem eq_of_keys_eq {m n : Mapping α} (hkeys : m.keys = n.keys)
    (hvalues : ∀ (i : Nat) (e f : Text × α), m[i]? = some e → n[i]? = some f → e.2 = f.2) : m = n := by
  have hlength : m.length = n.length := by simpa using congrArg List.length hkeys
  refine List.ext_getElem hlength fun i hi hi' => Prod.ext ?_ ?_
  · have hkey : m.keys[i]? = n.keys[i]? := congrArg (·[i]?) hkeys
    simpa [keys, hi, hi'] using hkey
  · exact hvalues i _ _ (List.getElem?_eq_getElem hi) (List.getElem?_eq_getElem hi')

end Mapping

end BraceTemplate
