import BraceTemplate.Proofs.NormalValues
import BraceTemplate.Proofs.Unfolding

/-!
# Values as data

A template value can be handed over in its turn: as it stands, or laid out in a heap, where arrays and records hold what
represents its parts, in any place and shared as it comes, and arrays have the gaps of its lists. However it is laid
out, it is converted to itself made normal.

* `Represents.unique`, `Represents.mono` — data represent one value at most, also in a larger heap;
* `Represents.properties` — what represents a mapping has its entries as properties;
* `Represents.toValue_eq` — what represents a value is converted to it, made normal.
-/

namespace BraceTemplate

/-! ## Parts are smaller -/

/-- An item is smaller than its list, and what an entry holds smaller than the mapping. -/
theorem Value.sizeOf_lt_of_mem_list {v : Value} {items : List (Option Value)} (hv : some v ∈ items) :
    sizeOf v < sizeOf (Value.list items) := by
  have hitem := List.sizeOf_lt_of_mem hv
  rw [Option.some.sizeOf_spec] at hitem
  rw [Value.list.sizeOf_spec]
  omega

theorem Value.sizeOf_lt_of_mem_mapping {e : Text × Value} {entries : List (Text × Value)} (he : e ∈ entries) :
    sizeOf e.2 < sizeOf (Value.mapping entries) := by
  have hentry := List.sizeOf_lt_of_mem he
  rcases e with ⟨key, v⟩
  rw [Prod.mk.sizeOf_spec] at hentry
  rw [Value.mapping.sizeOf_spec]
  show sizeOf v < _
  omega

namespace Heap

variable {h : Heap} {path : List Nat} {d : Datum} {id : Nat} {v w : Value}

/-- Whether a datum stands for a value: the value itself, or a container that holds what stands for its parts, which
are compared place by place. An array has its gaps where the list has them. -/
inductive Represents (h : Heap) : Datum → Value → Prop
  | value (v : Value) : Represents h (.value v) v
  | list {id : Nat} {items : List (Option Datum)} {values : List (Option Value)} : h[id]? = some (.array items) →
      SameGaps items values →
      (∀ (i : Nat) (d : Datum) (v : Value), items[i]? = some (some d) → values[i]? = some (some v) →
        Represents h d v) →
      Represents h (.node id) (.list values)
  | mapping {id : Nat} {entries : Mapping Datum} {values : Mapping Value} : h[id]? = some (.record entries) →
      entries.keys = values.keys →
      (∀ (i : Nat) (e : Text × Datum) (f : Text × Value), entries[i]? = some e → values[i]? = some f →
        Represents h e.2 f.2) →
      Represents h (.node id) (.mapping values)

/-- Whether two entries have one key, and what is under it on the one side stands for what is on the other. -/
abbrev RepresentsEntry (h : Heap) (e : Text × Datum) (f : Text × Value) : Prop :=
  e.1 = f.1 ∧ h.Represents e.2 f.2

theorem keys_eq_of_representsEntry {entries : Mapping Datum} {values : Mapping Value}
    (hall : List.Forall₂ h.RepresentsEntry entries values) : entries.keys = values.keys := by
  induction hall with
  | nil => rfl
  | cons hfirst _ ih => exact congrArg₂ List.cons hfirst.1 ih

theorem represents_record_iff {entries : Mapping Datum} {values : Mapping Value} (hc : h[id]? = some (.record entries)) :
    h.Represents (.node id) (.mapping values) ↔ List.Forall₂ h.RepresentsEntry entries values := by
  constructor
  · intro hr
    cases hr with
    | mapping hc' hkeys hentries =>
      cases hc.symm.trans hc'
      have hlength : entries.length = values.length := by simpa using congrArg List.length hkeys
      refine forall₂_of_fst_snd hkeys ?_
      rw [List.forall₂_map_left_iff, List.forall₂_map_right_iff]
      exact forall₂_iff_getElem?.2 ⟨hlength, hentries⟩
  · intro hall
    refine .mapping hc (keys_eq_of_representsEntry hall) fun i e f he hf => ?_
    exact ((forall₂_iff_getElem?.1 hall).2 i e f he hf).2

/-! ## One value at most -/

theorem Represents.unique (hv : h.Represents d v) (hw : h.Represents d w) : v = w := by
  induction hv generalizing w with
  | value v =>
    cases hw
    rfl
  | list hc hgaps _ ih =>
    cases hw with
    | list hc' hgaps' hitems' =>
      cases hc.symm.trans hc'
      refine congrArg Value.list (eq_of_forall₂_rel (forall₂_rel_iff_getElem?.2 ⟨hgaps.symm.trans hgaps', ?_⟩))
      intro i v w hv hw
      obtain ⟨d, hd⟩ := hgaps.exists_getElem? hv
      exact ih i d v hd hv (hitems' i d w hd hw)
    | mapping hc' => cases hc.symm.trans hc'
  | mapping hc hkeys _ ih =>
    cases hw with
    | list hc' => cases hc.symm.trans hc'
    | mapping hc' hkeys' hentries' =>
      cases hc.symm.trans hc'
      refine congrArg Value.mapping (Mapping.eq_of_keys_eq (hkeys.symm.trans hkeys') fun i f g hf hg => ?_)
      have hi := (List.getElem?_eq_some_iff.1 hf).1
      have hlength := congrArg List.length hkeys
      rw [List.length_map, List.length_map] at hlength
      have he := List.getElem?_eq_getElem (hlength.symm ▸ hi)
      exact ih i _ f he hf (hentries' i _ g he hg)

/-- What is added to a heap does not change what the data before it stand for. -/
theorem Represents.mono {larger : Heap} (hheap : ∀ (id : Nat) (c : Container), h[id]? = some c → larger[id]? = some c)
    (hr : h.Represents d v) : larger.Represents d v := by
  induction hr with
  | value v => exact .value v
  | list hc hgaps _ ih => exact .list (hheap _ _ hc) hgaps ih
  | mapping hc hkeys _ ih => exact .mapping (hheap _ _ hc) hkeys ih

/-! ## Properties -/

theorem exists_represents_of_mem {entries : Mapping Datum} {values : Mapping Value} {e : Text × Datum}
    (hall : List.Forall₂ h.RepresentsEntry entries values) (he : e ∈ entries) : ∃ v, h.Represents e.2 v := by
  induction hall with
  | nil => cases he
  | cons hfirst _ ih =>
    rcases List.mem_cons.1 he with rfl | he
    · exact ⟨_, hfirst.2⟩
    · exact ih he

/-- What stands for a mapping has its entries as properties. -/
theorem Represents.properties {m : Mapping Value} (hr : h.Represents d (.mapping m)) :
    List.Forall₂ h.RepresentsEntry (h.properties d) m := by
  cases hr with
  | value v =>
    change List.Forall₂ h.RepresentsEntry (m.map fun e => (e.1, Datum.value e.2)) m
    rw [List.forall₂_map_left_iff, List.forall₂_same]
    intro e _
    exact ⟨rfl, .value e.2⟩
  | @mapping id entries values hc hkeys hentries =>
    rw [properties_record hc]
    exact (represents_record_iff hc).1 (.mapping hc hkeys hentries)

theorem Represents.isMapping {m : Mapping Value} (hr : h.Represents d (.mapping m)) : h.isMapping d := by
  cases hr with
  | value v => rfl
  | mapping hc => rw [Heap.isMapping, hc]

/-! ## Conversion -/

theorem Represents.isDropped_eq (hr : h.Represents d v) : d.isDropped = false := by
  cases hr <;> rfl

theorem filter_isDropped_of_represents {entries : Mapping Datum} {values : Mapping Value}
    (hall : List.Forall₂ h.RepresentsEntry entries values) : (entries.filter fun e => !e.2.isDropped) = entries := by
  rw [List.filter_eq_self]
  intro e he
  obtain ⟨v, hv⟩ := exists_represents_of_mem hall he
  rw [hv.isDropped_eq]
  rfl

/-- Whether the containers of a path stand for nothing, or for something larger than a value. -/
def IsBelow (h : Heap) (path : List Nat) (v : Value) : Prop :=
  ∀ id ∈ path, ∀ w, h.Represents (.node id) w → sizeOf v < sizeOf w

theorem IsBelow.not_mem (hbelow : h.IsBelow path v) (hr : h.Represents (.node id) v) : id ∉ path :=
  fun hmem => Nat.lt_irrefl _ (hbelow id hmem v hr)

theorem IsBelow.nil : h.IsBelow [] v :=
  fun _ hid => absurd hid List.not_mem_nil

/-- What a container holds is below it, and below all that it is below itself. -/
theorem IsBelow.cons (hbelow : h.IsBelow path w) (hr : h.Represents (.node id) w) (hlt : sizeOf v < sizeOf w) :
    h.IsBelow (id :: path) v := by
  intro outer houter u hu
  rcases List.mem_cons.1 houter with rfl | houter
  · rwa [hu.unique hr]
  · exact hlt.trans (hbelow outer houter u hu)

/-- What stands for a value is converted to it, made normal. The containers around it are those of larger values, so
that it is none of them. -/
theorem Represents.toValue_eq (hr : h.Represents d v) (hbelow : h.IsBelow path v) :
    h.toValue path d = .ok v.normalise := by
  induction hr generalizing path with
  | value v => exact toValue_alone fun id c hd => by cases hd
  | @list id items values hc hgaps hitems ih =>
    have hr : h.Represents (.node id) (.list values) := .list hc hgaps hitems
    have hinner : (items.mapM fun item => item.mapM (h.toValue (id :: path))) =
        .ok (values.map (Option.map Value.normalise)) := by
      rw [mapM_places_eq_ok_iff, forall₂_rel_iff_getElem?]
      refine ⟨by simpa [SameGaps, Function.comp_def] using hgaps, ?_⟩
      intro i d w hd hw
      rw [List.getElem?_map, Option.map_eq_some_iff] at hw
      obtain ⟨item, hv, hitem⟩ := hw
      obtain ⟨v, rfl, rfl⟩ := Option.map_eq_some_iff.1 hitem
      -- the list is around its items now, and larger than each
      have hlt := Value.sizeOf_lt_of_mem_list (List.mem_of_getElem? hv)
      exact ih i d v hd hv (hbelow.cons hr hlt)
    rw [toValue_array (hbelow.not_mem hr) hc, hinner, Value.normalise, Value.normaliseAll_eq]
    rfl
  | @mapping id entries values hc hkeys hentries ih =>
    have hr : h.Represents (.node id) (.mapping values) := .mapping hc hkeys hentries
    have hall := (represents_record_iff hc).1 hr
    have hinner : (entries.mapM fun e => do return (e.1, ← h.toValue (id :: path) e.2)) =
        .ok (values.map fun f => (f.1, f.2.normalise)) := by
      rw [mapM_eq_ok_iff, List.forall₂_map_right_iff]
      obtain ⟨hlength, hpairs⟩ := forall₂_iff_getElem?.1 hall
      refine forall₂_iff_getElem?.2 ⟨hlength, ?_⟩
      intro i e f he hf
      have hlt := Value.sizeOf_lt_of_mem_mapping (List.mem_of_getElem? hf)
      rw [ih i e f he hf (hbelow.cons hr hlt), (hpairs i e f he hf).1]
      rfl
    rw [toValue_of_record (hbelow.not_mem hr) hc, filter_isDropped_of_represents hall, hinner, Value.normalise,
      Value.normaliseEntries_eq]
    rfl

end Heap

/-- Whether a caller's data stand for a value. -/
def Data.Represents (data : Data) (v : Value) : Prop :=
  data.heap.Represents data.root v

theorem Data.Represents.toValue_eq {data : Data} {v : Value} (hr : data.Represents v) :
    data.toValue = .ok v.normalise :=
  Heap.Represents.toValue_eq hr .nil

end BraceTemplate
