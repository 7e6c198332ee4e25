import BraceTemplate.Proofs.NormalValues
import Mathlib.Data.List.Perm.Subperm
import Mathlib.Logic.Relation

/-!
# Equality of values

Two mappings are compared from one side: they have equally many keys, and each key of the first is found in the second,
with an equal value. Where no key occurs twice this says as much as a comparison from both sides. Lists are compared
from one side too, and nothing is compared where the first has a gap. So structural equality is an equivalence of values
without a NaN and without gaps, and the order of keys does not matter to it.

* `same_list_iff`, `same_mapping_iff` — what is equal to a list and to a mapping, said for each index and each key;
* `Reorders.same` — a value with the keys of one mapping in another order is equal to it;
* `equality_is_an_equivalence` — the laws of equality.
-/

namespace BraceTemplate

/-! ## Numbers -/

namespace Number

attribute [local simp] same

theorem same_self {a : Number} (h : a.isNaN = false) : a.same a := by
  cases a with
  | nan => cases h
  | infinite s => simp
  | finite s m k => simp

theorem same_symm {a b : Number} (h : a.same b) : b.same a := by
  cases a <;> cases b <;> simp_all

theorem same_trans {a b c : Number} (h : a.same b) (h' : b.same c) : a.same c := by
  cases a <;> cases b <;> cases c <;> simp_all

theorem isZero_iff {s : Bool} {m k : Nat} : (finite s m k).isZero ↔ finiteUnits s m k = 0 := by
  cases s <;> simp [isZero, finiteUnits, Nat.shiftLeft_eq]

/-- Equal numbers are both zero, or neither is. -/
theorem isZero_of_same {a b : Number} (h : a.same b) : a.isZero = b.isZero := by
  cases a with
  | finite s m k =>
    cases b with
    | finite t n l =>
      simp only [same, decide_eq_true_eq] at h
      rw [Bool.eq_iff_iff, isZero_iff, isZero_iff, h]
    | nan | infinite => simp at h
  | nan => simp at h
  | infinite s =>
    cases b with
    | infinite t => rfl
    | nan | finite => simp at h

theorem isNaN_of_same {a b : Number} (h : a.same b) : a.isNaN = false ∧ b.isNaN = false := by
  cases a <;> cases b <;> simp_all [isNaN]

end Number

/-! ## Lookups compared -/

section Lookups

variable {α : Type u} {R : α → α → Prop} {x y z : Option α}

theorem rel_self_of_forall (h : ∀ a, x = some a → R a a) : Option.Rel R x x := by
  cases x with
  | none => exact .none
  | some a => exact .some (h a rfl)

theorem rel_symm_of_forall (h : ∀ a b, x = some a → y = some b → R a b → R b a) (hxy : Option.Rel R x y) :
    Option.Rel R y x := by
  cases hxy with
  | none => exact .none
  | some hab => exact .some (h _ _ rfl rfl hab)

theorem rel_trans_of_forall (h : ∀ a b c, x = some a → y = some b → z = some c → R a b → R b c → R a c)
    (hxy : Option.Rel R x y) (hyz : Option.Rel R y z) : Option.Rel R x z := by
  cases hxy with
  | none =>
    cases hyz
    exact .none
  | some hab =>
    cases hyz with
    | some hbc => exact .some (h _ _ _ rfl rfl rfl hab hbc)

end Lookups

namespace Mapping

variable {α : Type u} {a b : Mapping α}

/-- Equally many keys, and all of the first among those of the second: then they are the same keys. -/
theorem mem_keys_iff_of_subset (ha : a.keys.Nodup) (hlength : a.length = b.length) (hsub : a.keys ⊆ b.keys)
    (key : Text) : key ∈ a.keys ↔ key ∈ b.keys := by
  have hle : b.keys.length ≤ a.keys.length := by
    rw [keys, keys, List.length_map, List.length_map, hlength]
  exact ((ha.subperm hsub).perm_of_length_le hle).mem_iff

theorem get?_append (key : Text) : get? (a ++ b) key = (get? a key).or (get? b key) :=
  List.lookup_append

/-- Where a key is found does not depend on the order of the keys, if none occurs twice. -/
theorem get?_of_perm (ha : a.keys.Nodup) (h : a.Perm b) (key : Text) : get? a key = get? b key := by
  have hb : b.keys.Nodup := (h.map Prod.fst).nodup_iff.1 ha
  apply Option.ext
  intro v
  rw [get?_eq_some_iff ha, get?_eq_some_iff hb, h.mem_iff]

end Mapping

/-! ## What is equal to a value -/

namespace Value

section Atoms

attribute [local simp] same

theorem same_null_iff {b : Value} : null.same b ↔ b = null := by
  cases b <;> simp

theorem same_bool_iff {x : Bool} {b : Value} : (bool x).same b ↔ b = bool x := by
  cases b <;> simp [eq_comm]

theorem same_text_iff {t : Text} {b : Value} : (text t).same b ↔ b = text t := by
  cases b <;> simp [eq_comm]

theorem same_number_iff {x : Number} {b : Value} : (number x).same b ↔ ∃ y, b = number y ∧ x.same y := by
  cases b <;> simp

end Atoms

/-- Lists are equal if they are of one length and every item of the first is equal to an item at its place. -/
theorem sameAll_iff {as bs : List (Option Value)} : sameAll as bs ↔ as.length = bs.length ∧
    ∀ (i : Nat) (v : Value), as[i]? = some (some v) → ∃ w, bs[i]? = some (some w) ∧ v.same w := by
  induction as generalizing bs with
  | nil => cases bs <;> simp [sameAll]
  | cons item as ih =>
    cases bs with
    | nil => simp [sameAll]
    | cons item' bs =>
      -- a gap asks nothing of its place, an item asks for an item that is equal to it
      have hstep : sameAll (item :: as) (item' :: bs) ↔
          (∀ v, item = some v → ∃ w, item' = some w ∧ v.same w) ∧ sameAll as bs := by
        cases item with
        | none => simp [sameAll]
        | some v => cases item' <;> simp [sameAll]
      rw [hstep, ih, List.length_cons, List.length_cons, Nat.add_right_cancel_iff]
      constructor
      · rintro ⟨hfirst, hlength, hrest⟩
        refine ⟨hlength, ?_⟩
        rintro (_ | i) v hv
        · obtain ⟨w, rfl, hsame⟩ := hfirst v (Option.some.inj hv)
          exact ⟨w, rfl, hsame⟩
        · exact hrest i v hv
      · rintro ⟨hlength, hitems⟩
        refine ⟨?_, hlength, fun i => hitems (i + 1)⟩
        rintro v rfl
        obtain ⟨w, hw, hsame⟩ := hitems 0 v rfl
        exact ⟨w, Option.some.inj hw, hsame⟩

/-- Equal to a list are the lists of its length that have, wherever it has an item, an item equal to that. -/
theorem same_list_iff {as : List (Option Value)} {b : Value} : (list as).same b ↔
    ∃ bs, b = list bs ∧ as.length = bs.length ∧
      ∀ (i : Nat) (v : Value), as[i]? = some (some v) → ∃ w, bs[i]? = some (some w) ∧ v.same w := by
  cases b with
  | list bs => simp [same, sameAll_iff]
  | null | bool | number | text | mapping => simp [same]

theorem sameEntries_iff {entries : List (Text × Value)} {m : Mapping Value} : sameEntries entries m ↔
    ∀ e ∈ entries, ∃ w, m.get? e.1 = some w ∧ e.2.same w := by
  induction entries with
  | nil => simp [sameEntries]
  | cons e rest ih =>
    rcases e with ⟨key, v⟩
    rw [sameEntries, Bool.and_eq_true, ih, List.forall_mem_cons]
    refine and_congr_left fun _ => ?_
    cases m.get? key <;> simp

/-- Mappings without a key twice are equal if they are equal at each key: the comparison from one side says as much as
one from both. -/
theorem same_mapping_mapping_iff {as bs : Mapping Value} (has : as.keys.Nodup) (hbs : bs.keys.Nodup) :
    (mapping as).same (mapping bs) ↔ ∀ key, Option.Rel (fun v w => v.same w) (as.get? key) (bs.get? key) := by
  rw [same, Bool.and_eq_true, decide_eq_true_eq, sameEntries_iff]
  constructor
  · rintro ⟨hlength, hentries⟩ key
    have hsub : as.keys ⊆ bs.keys := by
      intro k hk
      rcases List.mem_map.1 hk with ⟨e, he, rfl⟩
      rcases hentries e he with ⟨w, hw, -⟩
      exact Mapping.mem_keys_of_get? hw
    cases hkey : as.get? key with
    | none =>
      have hmissing : key ∉ bs.keys := by
        rw [← Mapping.mem_keys_iff_of_subset has hlength hsub]
        exact Mapping.get?_eq_none_iff.1 hkey
      rw [Mapping.get?_eq_none_iff.2 hmissing]
      exact .none
    | some v =>
      rcases hentries (key, v) (Mapping.mem_of_get? hkey) with ⟨w, hw, hsame⟩
      rw [hw]
      exact .some hsame
  · intro h
    have hkeys : ∀ key, key ∈ as.keys ↔ key ∈ bs.keys := by
      intro key
      rw [← not_iff_not, ← Mapping.get?_eq_none_iff, ← Mapping.get?_eq_none_iff]
      have hkey := h key
      generalize as.get? key = x at hkey ⊢
      generalize bs.get? key = y at hkey ⊢
      cases hkey <;> simp
    have hperm : as.keys.Perm bs.keys := (List.perm_ext_iff_of_nodup has hbs).2 hkeys
    constructor
    · simpa [Mapping.keys] using hperm.length_eq
    · intro e he
      have hrel := h e.1
      rw [(Mapping.get?_eq_some_iff has).2 he] at hrel
      cases hw : bs.get? e.1 with
      | none =>
        rw [hw] at hrel
        cases hrel
      | some w =>
        rw [hw] at hrel
        cases hrel with
        | some hsame => exact ⟨w, rfl, hsame⟩

/-! ## An equivalence -/

/-- No number is a NaN, no mapping has a key twice, and no list has a gap. -/
abbrev IsProper : Value → Prop :=
  Throughout (fun n => n.isNaN = false) List.Nodup False

/-- What a template sees is proper, gaps apart. -/
theorem IsNormal.isProper {v : Value} (h : v.IsNormal) (hdense : v.IsDense) : v.IsProper := by
  induction h with
  | null => exact .null
  | bool b => exact .bool b
  | @number n hfinite =>
    refine .number ?_
    cases n with
    | nan => cases hfinite
    | infinite | finite => rfl
  | text t => exact .text t
  | list _ _ ih =>
    cases hdense with
    | list hgaps hitems => exact .list hgaps fun v hv => ih v hv (hitems v hv)
  | mapping hkeys _ ih =>
    cases hdense with
    | mapping _ hentries => exact .mapping (hkeys.imp Mapping.Precedes.ne) fun e he => ih e he (hentries e he)

/-- Equal to a mapping are the mappings that are equal to it at each key. -/
theorem same_mapping_iff {as : Mapping Value} {b : Value} (has : as.keys.Nodup) (hb : b.IsProper) :
    (mapping as).same b ↔
      ∃ bs, b = mapping bs ∧ ∀ key, Option.Rel (fun v w => v.same w) (as.get? key) (Mapping.get? bs key) := by
  cases hb with
  | mapping hbs _ => simp [same_mapping_mapping_iff has hbs]
  | null | bool | number | text | list => simp [same]

theorem same_self {v : Value} (h : v.IsProper) : v.same v := by
  induction h with
  | null => exact same_null_iff.2 rfl
  | bool b => exact same_bool_iff.2 rfl
  | number hn => exact same_number_iff.2 ⟨_, rfl, Number.same_self hn⟩
  | text t => exact same_text_iff.2 rfl
  | list _ _ ih =>
    refine same_list_iff.2 ⟨_, rfl, rfl, ?_⟩
    intro i v hv
    exact ⟨v, hv, ih v (mem_reduceOption_of_getElem? hv)⟩
  | mapping hkeys _ ih =>
    rw [same_mapping_mapping_iff hkeys hkeys]
    intro key
    exact rel_self_of_forall fun v hv => ih (key, v) (Mapping.mem_of_get? hv)

theorem same_symm {a b : Value} (ha : a.IsProper) (hb : b.IsProper) (h : a.same b) : b.same a := by
  induction ha generalizing b with
  | null =>
    rw [same_null_iff] at h
    exact h ▸ same_null_iff.2 rfl
  | bool x =>
    rw [same_bool_iff] at h
    exact h ▸ same_bool_iff.2 rfl
  | text t =>
    rw [same_text_iff] at h
    exact h ▸ same_text_iff.2 rfl
  | number _ =>
    rcases same_number_iff.1 h with ⟨y, rfl, hsame⟩
    exact same_number_iff.2 ⟨_, rfl, Number.same_symm hsame⟩
  | @list as hgaps _ ih =>
    rcases same_list_iff.1 h with ⟨bs, rfl, hlength, hitems⟩
    cases hb with
    | list _ hbs =>
      refine same_list_iff.2 ⟨_, rfl, hlength.symm, ?_⟩
      intro i w hw
      -- the first list has an item there as well: it has no gaps
      have hi : i < as.length := hlength ▸ (List.getElem?_eq_some_iff.1 hw).1
      have hplace := List.getElem?_eq_getElem hi
      cases hitem : as[i] with
      | none => exact absurd (hitem ▸ List.getElem_mem hi) hgaps
      | some v =>
        rw [hitem] at hplace
        rcases hitems i v hplace with ⟨w', hw', hsame⟩
        obtain rfl : w = w' := Option.some.inj (Option.some.inj (hw.symm.trans hw'))
        exact ⟨v, hplace, ih v (mem_reduceOption_of_getElem? hplace) (hbs w (mem_reduceOption_of_getElem? hw)) hsame⟩
  | mapping hkeys _ ih =>
    rcases (same_mapping_iff hkeys hb).1 h with ⟨bs, rfl, hrel⟩
    cases hb with
    | mapping hkeys' hbs =>
      rw [same_mapping_mapping_iff hkeys' hkeys]
      intro key
      refine rel_symm_of_forall ?_ (hrel key)
      intro v w hv hw hsame
      exact ih (key, v) (Mapping.mem_of_get? hv) (hbs (key, w) (Mapping.mem_of_get? hw)) hsame

theorem same_trans {a b c : Value} (ha : a.IsProper) (hb : b.IsProper) (hc : c.IsProper) (h : a.same b)
    (h' : b.same c) : a.same c := by
  induction ha generalizing b c with
  | null =>
    rw [same_null_iff] at h
    exact h ▸ h'
  | bool x =>
    rw [same_bool_iff] at h
    exact h ▸ h'
  | text t =>
    rw [same_text_iff] at h
    exact h ▸ h'
  | number _ =>
    rcases same_number_iff.1 h with ⟨y, rfl, hsame⟩
    rcases same_number_iff.1 h' with ⟨z, rfl, hsame'⟩
    exact same_number_iff.2 ⟨z, rfl, Number.same_trans hsame hsame'⟩
  | list _ _ ih =>
    rcases same_list_iff.1 h with ⟨bs, rfl, hlength, hitems⟩
    rcases same_list_iff.1 h' with ⟨cs, rfl, hlength', hitems'⟩
    cases hb with
    | list _ hbs =>
      cases hc with
      | list _ hcs =>
        refine same_list_iff.2 ⟨cs, rfl, hlength.trans hlength', ?_⟩
        intro i u hu
        rcases hitems i u hu with ⟨v, hv, huv⟩
        rcases hitems' i v hv with ⟨w, hw, hvw⟩
        exact ⟨w, hw, ih u (mem_reduceOption_of_getElem? hu) (hbs v (mem_reduceOption_of_getElem? hv))
          (hcs w (mem_reduceOption_of_getElem? hw)) huv hvw⟩
  | mapping hkeys _ ih =>
    rcases (same_mapping_iff hkeys hb).1 h with ⟨bs, rfl, hrel⟩
    cases hb with
    | mapping hkeys' hbs =>
      rcases (same_mapping_iff hkeys' hc).1 h' with ⟨cs, rfl, hrel'⟩
      cases hc with
      | mapping hkeys'' hcs =>
        rw [same_mapping_mapping_iff hkeys hkeys'']
        intro key
        refine rel_trans_of_forall ?_ (hrel key) (hrel' key)
        intro u v w hu hv hw
        exact ih (key, u) (Mapping.mem_of_get? hu) (hbs (key, v) (Mapping.mem_of_get? hv))
          (hcs (key, w) (Mapping.mem_of_get? hw))

/-! ## The order of keys -/

/-- One mapping, somewhere inside a value, gets its keys in another order. -/
inductive Reorders : Value → Value → Prop
  | keys {entries entries' : List (Text × Value)} : entries.Perm entries' → Reorders (mapping entries) (mapping entries')
  | item (before : List (Option Value)) {v w : Value} (after : List (Option Value)) : Reorders v w →
      Reorders (list (before ++ some v :: after)) (list (before ++ some w :: after))
  | entry (before : List (Text × Value)) (key : Text) {v w : Value} (after : List (Text × Value)) : Reorders v w →
      Reorders (mapping (before ++ (key, v) :: after)) (mapping (before ++ (key, w) :: after))

namespace Reorders

variable {v w : Value}

theorem isProper (h : Reorders v w) (hv : v.IsProper) : w.IsProper := by
  induction h with
  | keys hperm =>
    cases hv with
    | mapping hkeys hvalues =>
      refine .mapping ((hperm.map Prod.fst).nodup_iff.1 hkeys) ?_
      intro e he
      exact hvalues e (hperm.mem_iff.2 he)
  | item before after _ ih =>
    cases hv with
    | list hgaps hvalues =>
      rw [List.reduceOption_append, List.reduceOption_cons_of_some, List.forall_mem_append,
        List.forall_mem_cons] at hvalues
      refine .list (by simpa using hgaps) ?_
      rw [List.reduceOption_append, List.reduceOption_cons_of_some, List.forall_mem_append, List.forall_mem_cons]
      exact ⟨hvalues.1, ih hvalues.2.1, hvalues.2.2⟩
  | entry before key after _ ih =>
    cases hv with
    | mapping hkeys hvalues =>
      rw [List.forall_mem_append, List.forall_mem_cons] at hvalues
      refine .mapping ?_ ?_
      · simpa [Mapping.keys] using hkeys
      · rw [List.forall_mem_append, List.forall_mem_cons]
        exact ⟨hvalues.1, ih hvalues.2.1, hvalues.2.2⟩

/-- With the keys of one mapping in another order a value is equal to what it was. -/
theorem same (h : Reorders v w) (hv : v.IsProper) : v.same w := by
  have hw : w.IsProper := h.isProper hv
  induction h with
  | keys hperm =>
    cases hv with
    | mapping hkeys hvalues =>
      cases hw with
      | mapping hkeys' _ =>
        rw [same_mapping_mapping_iff hkeys hkeys']
        intro key
        rw [← Mapping.get?_of_perm hkeys hperm key]
        exact rel_self_of_forall fun v hv => same_self (hvalues (key, v) (Mapping.mem_of_get? hv))
  | item before after hinner ih =>
    cases hv with
    | list _ hvalues =>
      have hchanged := hvalues _ (List.reduceOption_mem_iff.2 (List.mem_append_right before List.mem_cons_self))
      refine same_list_iff.2 ⟨_, rfl, by simp, ?_⟩
      intro i u hu
      have hself := same_self (hvalues u (mem_reduceOption_of_getElem? hu))
      -- away from the place of the change both lists have one item
      rw [List.getElem?_append, List.getElem?_cons] at hu ⊢
      split_ifs at hu ⊢
      · exact ⟨u, hu, hself⟩
      · obtain rfl := Option.some.inj (Option.some.inj hu)
        exact ⟨_, rfl, ih hchanged (hinner.isProper hchanged)⟩
      · exact ⟨u, hu, hself⟩
  | entry before key after hinner ih =>
    cases hv with
    | mapping hkeys hvalues =>
      cases hw with
      | mapping hkeys' _ =>
        have hchanged := hvalues _ (List.mem_append_right before List.mem_cons_self)
        have hself := (same_mapping_mapping_iff hkeys hkeys).1 (same_self (.mapping hkeys hvalues))
        rw [same_mapping_mapping_iff hkeys hkeys']
        intro k
        have hk := hself k
        rw [Mapping.get?_append, Mapping.get?_cons] at hk ⊢
        rw [Mapping.get?_append, Mapping.get?_cons]
        cases hbefore : Mapping.get? before k with
        | some u =>
          rw [hbefore] at hk
          exact hk
        | none =>
          rw [hbefore] at hk
          simp only [Option.none_or] at hk ⊢
          split_ifs at hk ⊢
          · exact .some (ih hchanged (hinner.isProper hchanged))
          · exact hk

end Reorders

/-- However often keys are put in another order, the value stays proper and equal to what it was. -/
theorem same_of_reorderings {v w : Value} (h : Relation.ReflTransGen Reorders v w) (hv : v.IsProper) :
    w.IsProper ∧ v.same w := by
  induction h with
  | refl => exact ⟨hv, same_self hv⟩
  | tail _ hstep ih =>
    rcases ih with ⟨hproper, hsame⟩
    have hnext := hstep.isProper hproper
    exact ⟨hnext, same_trans hv hproper hnext hsame (hstep.same hproper)⟩

/-! ## The laws -/

/-- The six kinds of values. -/
inductive Kind where
  | null
  | bool
  | number
  | text
  | list
  | mapping
deriving DecidableEq, Repr

/-- The kind of a value. -/
def kind : Value → Kind
  | null => .null
  | bool _ => .bool
  | number _ => .number
  | text _ => .text
  | list _ => .list
  | mapping _ => .mapping

theorem kind_of_same {a b : Value} (h : a.same b) : a.kind = b.kind := by
  cases a with
  | null => rw [same_null_iff.1 h]
  | bool x => rw [same_bool_iff.1 h]
  | text t => rw [same_text_iff.1 h]
  | number x =>
    rcases same_number_iff.1 h with ⟨y, rfl, -⟩
    rfl
  | list as =>
    rcases same_list_iff.1 h with ⟨bs, rfl, -⟩
    rfl
  | mapping as =>
    cases b with
    | mapping bs => rfl
    | null | bool | number | text | list => simp [same] at h

theorem isEmpty_eq_of_length_eq {α β : Type} {l : List α} {l' : List β} (h : l.length = l'.length) :
    l.isEmpty = l'.isEmpty := by
  rw [Bool.eq_iff_iff, List.isEmpty_iff_length_eq_zero, List.isEmpty_iff_length_eq_zero, h]

theorem isTruthy_of_same {a b : Value} (h : a.same b) : a.isTruthy = b.isTruthy := by
  cases a with
  | null => rw [same_null_iff.1 h]
  | bool x => rw [same_bool_iff.1 h]
  | text t => rw [same_text_iff.1 h]
  | number x =>
    rcases same_number_iff.1 h with ⟨y, rfl, hsame⟩
    rcases Number.isNaN_of_same hsame with ⟨hx, hy⟩
    simp only [isTruthy, Number.isZero_of_same hsame, hx, hy]
  | list as =>
    rcases same_list_iff.1 h with ⟨bs, rfl, hlength, -⟩
    simp only [isTruthy, isEmpty_eq_of_length_eq hlength]
  | mapping as =>
    cases b with
    | mapping bs =>
      rw [same, Bool.and_eq_true, decide_eq_true_eq] at h
      simp only [isTruthy, isEmpty_eq_of_length_eq h.1]
    | null | bool | number | text | list => simp [same] at h

/-- The laws of structural equality. Among values without a NaN, without a key twice in a mapping and without a gap in a
list it is reflexive, symmetric and transitive, and it does not matter on either side in which order the keys of any
mapping stand, however deep. Equal values are of one kind, and both count as true or both as false. -/
theorem equality_is_an_equivalence :
    (Equivalence fun a b : {v : Value // v.IsProper} => a.1.same b.1 = true) ∧
    (∀ a a' b b' : Value, a.IsProper → b.IsProper → Relation.ReflTransGen Reorders a a' →
      Relation.ReflTransGen Reorders b b' → a'.same b' = a.same b) ∧
    (∀ a b : Value, a.kind ≠ b.kind → a.same b = false) ∧
    ∀ a b : Value, a.same b = true → a.isTruthy = b.isTruthy := by
  refine ⟨⟨?_, ?_, ?_⟩, ?_, ?_, ?_⟩
  · intro a
    exact same_self a.2
  · intro a b h
    exact same_symm a.2 b.2 h
  · intro a b c hab hbc
    exact same_trans a.2 b.2 c.2 hab hbc
  · intro a a' b b' ha hb hreordered hreordered'
    rcases same_of_reorderings hreordered ha with ⟨ha', haa'⟩
    rcases same_of_reorderings hreordered' hb with ⟨hb', hbb'⟩
    rw [Bool.eq_iff_iff]
    constructor
    · intro h
      exact same_trans ha ha' hb haa' (same_trans ha' hb' hb h (same_symm hb hb' hbb'))
    · intro h
      exact same_trans ha' ha hb' (same_symm ha ha' haa') (same_trans ha hb hb' h hbb')
  · intro a b hkind
    rw [Bool.eq_false_iff]
    intro h
    exact hkind (kind_of_same h)
  · intro a b h
    exact isTruthy_of_same h

/-- A gap is not compared with what the other list has at its place, which can be compared with nothing. -/
example : (list [none]).same (list [some .null]) = true ∧ (list [some .null]).same (list [none]) = false := by
  decide

/-- A mapping inside a mapping, with the keys of both in another order, beside the two zeros and a number that is
written like a text. -/
theorem equality_is_an_equivalence_nested :
    let inner : Mapping Value := [("x", .number (.zero true)), ("y", .null)]
    let v : Value := .mapping [("a", .mapping inner), ("b", .list [])]
    let w : Value := .mapping [("b", .list []), ("a", .mapping inner.reverse)]
    (v.IsProper ∧ Relation.ReflTransGen Reorders v w) ∧ w.same v = v.same v ∧
    ((number (.zero false)).kind ≠ (text "0").kind ∧ (number (.zero false)).same (text "0") = false) ∧
    (number (.zero false)).same (number (.zero true)) = true ∧
    (number (.zero false)).isTruthy = (number (.zero true)).isTruthy := by
  intro inner v w
  have hinner : (mapping inner).IsProper :=
    .mapping (by decide) (List.forall_mem_cons.2 ⟨.number rfl, List.forall_mem_singleton.2 .null⟩)
  have hempty : (list []).IsProper := .list List.not_mem_nil (List.forall_mem_nil _)
  have hv : v.IsProper :=
    .mapping (by decide) (List.forall_mem_cons.2 ⟨hinner, List.forall_mem_singleton.2 hempty⟩)
  have hinside : Reorders v (mapping [("a", mapping inner.reverse), ("b", list [])]) :=
    .entry [] "a" [("b", list [])] (.keys inner.reverse_perm.symm)
  have houtside : Reorders (mapping [("a", mapping inner.reverse), ("b", list [])]) w :=
    .keys (List.Perm.swap _ _ [])
  have hreordered : Relation.ReflTransGen Reorders v w := .tail (.single hinside) houtside
  have hkind : (number (.zero false)).kind ≠ (text "0").kind := by decide
  have hzeros : (number (.zero false)).same (number (.zero true)) = true := by decide
  rcases equality_is_an_equivalence with ⟨-, horder, hkinds, htruth⟩
  exact ⟨⟨hv, hreordered⟩, horder v w v v hv hv hreordered .refl, ⟨hkind, hkinds _ _ hkind⟩, hzeros,
    htruth _ _ hzeros⟩

end Value

end BraceTemplate
