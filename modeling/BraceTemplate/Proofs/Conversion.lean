import BraceTemplate.Context
import BraceTemplate.Proofs.Places

/-!
# When a caller's data become a context

Converting data fails in one way only: a map that the walk enters has a key without a text. A walk leaves out
references back to where it is, so the question is which containers it enters; it enters all that can be reached.

* `succeeds_toValue_iff` — the conversion of a datum inside containers;
* `succeeds_create_iff` — the context of a caller's data.
-/

namespace BraceTemplate

/-! ## Results and faults -/

/-- Whether there is a result, and no fault. -/
def Succeeds {α : Type} (x : Except Fault α) : Prop :=
  ∃ a, x = .ok a

section Succeeds

variable {α β : Type}

theorem succeeds_ok (a : α) : Succeeds (.ok a) :=
  ⟨a, rfl⟩

theorem not_succeeds_error (fault : Fault) : ¬ Succeeds (.error fault : Except Fault α) := by
  rintro ⟨a, h⟩
  cases h

instance : (x : Except Fault α) → Decidable (Succeeds x)
  | .ok a => isTrue (succeeds_ok a)
  | .error fault => isFalse (not_succeeds_error fault)

/-- A result of two steps is one of the second, on a result of the first. -/
theorem exists_of_bind_eq_ok {x : Except Fault α} {f : α → Except Fault β} {b : β} (h : x >>= f = .ok b) :
    ∃ a, x = .ok a ∧ f a = .ok b := by
  cases x with
  | error fault => cases h
  | ok a => exact ⟨a, rfl, h⟩

theorem succeeds_bind_iff {x : Except Fault α} {f : α → Except Fault β} :
    Succeeds (x >>= f) ↔ ∃ a, x = .ok a ∧ Succeeds (f a) := by
  constructor
  · rintro ⟨b, h⟩
    obtain ⟨a, hx, hf⟩ := exists_of_bind_eq_ok h
    exact ⟨a, hx, b, hf⟩
  · rintro ⟨a, rfl, hf⟩
    exact hf

/-- A second step whose success does not depend on what the first one gave. -/
theorem succeeds_bind_and {x : Except Fault α} {f : α → Except Fault β} {p : Prop}
    (hf : ∀ a, Succeeds (f a) ↔ p) : Succeeds (x >>= f) ↔ Succeeds x ∧ p := by
  rw [succeeds_bind_iff]
  constructor
  · rintro ⟨a, hx, ha⟩
    exact ⟨⟨a, hx⟩, (hf a).1 ha⟩
  · rintro ⟨⟨a, hx⟩, hp⟩
    exact ⟨a, hx, (hf a).2 hp⟩

/-- What is made of a result without another fault. -/
theorem succeeds_bind_pure_iff {x : Except Fault α} {f : α → β} :
    Succeeds (x >>= fun a => pure (f a)) ↔ Succeeds x := by
  have hpure : ∀ a, Succeeds (pure (f a) : Except Fault β) ↔ True := fun a => iff_true_intro (succeeds_ok (f a))
  rw [succeeds_bind_and hpure, and_true]

theorem succeeds_mapM_iff {l : List α} {f : α → Except Fault β} :
    Succeeds (l.mapM f) ↔ ∀ a ∈ l, Succeeds (f a) := by
  induction l with
  | nil =>
    have hnil : Succeeds ([].mapM f) := succeeds_ok []
    simpa using hnil
  | cons a l ih =>
    rw [List.mapM_cons, List.forall_mem_cons, ← ih]
    exact succeeds_bind_and fun b => succeeds_bind_pure_iff

/-- Items are converted one by one. -/
theorem mapM_eq_ok_iff {f : α → Except Fault β} {l : List α} {results : List β} :
    l.mapM f = .ok results ↔ List.Forall₂ (fun a b => f a = .ok b) l results := by
  induction l generalizing results with
  | nil =>
    rw [List.mapM_nil, List.forall₂_nil_left_iff]
    constructor
    · intro h
      cases h
      rfl
    · rintro rfl
      rfl
  | cons a l ih =>
    rw [List.mapM_cons, List.forall₂_cons_left_iff]
    constructor
    · intro h
      obtain ⟨b, ha, hrest⟩ := exists_of_bind_eq_ok h
      obtain ⟨rest, hl, heq⟩ := exists_of_bind_eq_ok hrest
      cases heq
      exact ⟨b, rest, ha, ih.1 hl, rfl⟩
    · rintro ⟨b, rest, ha, hl, rfl⟩
      rw [ha, ih.2 hl]
      rfl

/-- Converting what may be a gap is converting its item. -/
theorem optionMapM_eq_ok_iff {f : α → Except Fault β} {item : Option α} {result : Option β} :
    item.mapM f = .ok result ↔ Option.Rel (fun a b => f a = .ok b) item result := by
  cases item with
  | none =>
    rw [Option.mapM_none]
    constructor
    · intro h
      cases h
      exact .none
    · rintro ⟨⟩
      rfl
  | some a =>
    rw [Option.mapM_some, map_eq_pure_bind]
    constructor
    · intro h
      obtain ⟨b, ha, heq⟩ := exists_of_bind_eq_ok h
      cases heq
      exact .some ha
    · rintro (⟨ha⟩ | _)
      rw [ha]
      rfl

/-- The items at the places of a list are converted one by one, and its gaps stay. -/
theorem mapM_places_eq_ok_iff {f : α → Except Fault β} {items : List (Option α)} {results : List (Option β)} :
    (items.mapM fun item => item.mapM f) = .ok results ↔
      List.Forall₂ (Option.Rel fun a b => f a = .ok b) items results := by
  simp only [mapM_eq_ok_iff, optionMapM_eq_ok_iff]

theorem succeeds_mapM_places_iff {items : List (Option α)} {f : α → Except Fault β} :
    Succeeds (items.mapM fun item => item.mapM f) ↔ ∀ a ∈ items.reduceOption, Succeeds (f a) := by
  simp only [succeeds_mapM_iff, List.reduceOption_mem_iff]
  constructor
  · intro hall a ha
    have hitem := hall (some a) ha
    rw [Option.mapM_some, map_eq_pure_bind] at hitem
    exact succeeds_bind_pure_iff.1 hitem
  · intro hall item hitem
    cases item with
    | none => exact succeeds_ok none
    | some a =>
      rw [Option.mapM_some, map_eq_pure_bind]
      exact succeeds_bind_pure_iff.2 (hall a hitem)

/-- Items that are converted keep what the conversion of one item keeps. -/
theorem map_of_mapM {γ : Type} {f : α → Except Fault β} {before : α → γ} {after : β → γ}
    (hf : ∀ a b, f a = .ok b → after b = before a) {l : List α} {results : List β}
    (h : l.mapM f = .ok results) : results.map after = l.map before := by
  rw [eq_comm, ← List.forall₂_eq_eq_eq, List.forall₂_map_left_iff, List.forall₂_map_right_iff]
  exact (mapM_eq_ok_iff.1 h).imp fun a b hab => (hf a b hab).symm

end Succeeds

/-- What a container holds; neither the gaps of an array nor the keys of a map are part of it. -/
def Container.children : Container → List Datum
  | .array items => items.reduceOption
  | .record entries => entries.map Prod.snd
  | .map entries => entries.map Prod.snd

namespace Heap

variable {h : Heap}

/-- The containers that a walk from a datum comes to without entering any container of `path`. -/
inductive Reaches (h : Heap) (path : List Nat) : Datum → Nat → Prop
  | here {id : Nat} {c : Container} : id ∉ path → h[id]? = some c → Reaches h path (.node id) id
  | child {id target : Nat} {c : Container} {d : Datum} : id ∉ path → h[id]? = some c → d ∈ c.children →
      Reaches h path d target → Reaches h path (.node id) target

/-- Whether a container is no map, or a map all of whose keys have a text. -/
def HasTextKeys (h : Heap) (id : Nat) : Prop :=
  ∀ entries, h[id]? = some (.map entries) → ∀ e ∈ entries, Succeeds (h.plainText e.1)

/-! ## Walks -/

theorem Reaches.mono {path larger : List Nat} {d : Datum} {target : Nat} (hpath : path ⊆ larger)
    (hr : h.Reaches larger d target) : h.Reaches path d target := by
  induction hr with
  | here hid hc => exact .here (fun hmem => hid (hpath hmem)) hc
  | child hid hc hd _ ih => exact .child (fun hmem => hid (hpath hmem)) hc hd ih

/-- A walk that comes through a container comes to its end also from the last time it was there. -/
theorem Reaches.avoid {path : List Nat} {d : Datum} {target : Nat} (hr : h.Reaches path d target) (id : Nat) :
    h.Reaches (id :: path) d target ∨ target = id ∨
      ∃ c, h[id]? = some c ∧ ∃ d' ∈ c.children, h.Reaches (id :: path) d' target := by
  induction hr with
  | @here i c hi hc =>
    by_cases hsame : i = id
    · exact .inr (.inl hsame)
    · exact .inl (.here (by simp [hsame, hi]) hc)
  | @child i target c d hi hc hd _ ih =>
    rcases ih with hrest | hrest
    · by_cases hsame : i = id
      · subst hsame
        exact .inr (.inr ⟨c, hc, d, hd, hrest⟩)
      · exact .inl (.child (by simp [hsame, hi]) hc hd hrest)
    · exact .inr hrest

/-- From a container one comes to it and to what its children come to without it. -/
theorem reaches_node_iff {path : List Nat} {id target : Nat} {c : Container} (hid : id ∉ path)
    (hc : h[id]? = some c) : h.Reaches path (.node id) target ↔
      target = id ∨ ∃ d ∈ c.children, h.Reaches (id :: path) d target := by
  constructor
  · intro hr
    rcases hr.avoid id with hr | htarget | ⟨c', hc', d, hd, hr⟩
    · -- a walk that does not enter the container cannot begin there
      cases hr with
      | here hmem | child hmem => simp at hmem
    · exact .inl htarget
    · obtain rfl : c = c' := Option.some.inj (hc.symm.trans hc')
      exact .inr ⟨d, hd, hr⟩
  · rintro (rfl | ⟨d, hd, hr⟩)
    · exact .here hid hc
    · exact .child hid hc hd (hr.mono (List.subset_cons_self id path))

/-! ## Conversions -/

theorem succeeds_toValue_of_isDropped {path : List Nat} {d : Datum} (hd : d.isDropped) :
    Succeeds (h.toValue path d) := by
  cases d with
  | undefined | function | symbol =>
    rw [toValue]
    exact succeeds_ok _
  | value | bigint | date | node => simp [Datum.isDropped] at hd

/-- The data that a mapping holds are converted if all are: what is left out would become null. -/
theorem succeeds_entries_iff {path : List Nat} {entries : List (Text × Datum)} :
    Succeeds ((entries.filter fun e => !e.2.isDropped).mapM fun e => do
        return (e.1, ← h.toValue path e.2)) ↔
      ∀ d ∈ entries.map Prod.snd, Succeeds (h.toValue path d) := by
  rw [succeeds_mapM_iff]
  constructor
  · intro hall d hd
    obtain ⟨e, he, rfl⟩ := List.mem_map.1 hd
    by_cases hdropped : e.2.isDropped
    · exact succeeds_toValue_of_isDropped hdropped
    · have hkept : e ∈ entries.filter fun e => !e.2.isDropped := List.mem_filter.2 ⟨he, by simp [hdropped]⟩
      exact succeeds_bind_pure_iff.1 (hall e hkept)
  · intro hall e he
    have hd : e.2 ∈ entries.map Prod.snd := List.mem_map.2 ⟨e, (List.mem_filter.1 he).1, rfl⟩
    exact succeeds_bind_pure_iff.2 (hall e.2 hd)

theorem map_snd_indexed {α : Type} (items : List (Option α)) :
    (indexed items).map Prod.snd = items.reduceOption := by
  have hitems : (items.mapIdx fun i item => item.map fun a => (Text.ofNat i, a)).map (Option.map Prod.snd) = items := by
    apply List.ext_getElem <;> simp [Function.comp_def]
  rw [indexed, ← List.reduceOption_map, hitems]

/-- The entries of a container have names if its keys have texts. -/
theorem succeeds_namedEntries_iff {id : Nat} {c : Container} (hc : h[id]? = some c) :
    Succeeds (h.namedEntries c) ↔ h.HasTextKeys id := by
  cases c with
  | array items => 
    refine ⟨fun _ entries hmap => ?_, fun _ => succeeds_ok _⟩
    rw [hc] at hmap
    cases hmap
  | record entries =>
    refine ⟨fun _ entries hmap => ?_, fun _ => succeeds_ok _⟩
    rw [hc] at hmap
    cases hmap
  | map entries =>
    rw [namedEntries, succeeds_mapM_iff]
    constructor
    · intro hall entries' hmap e he
      rw [hc] at hmap
      cases hmap
      exact succeeds_bind_pure_iff.1 (hall e he)
    · intro hkeys e he
      exact succeeds_bind_pure_iff.2 (hkeys entries hc e he)

/-- The names stand before the children. -/
theorem map_snd_of_namedEntries {c : Container} {entries : List (Text × Datum)}
    (he : h.namedEntries c = .ok entries) : entries.map Prod.snd = c.children := by
  cases c with
  | array items =>
    cases he
    exact map_snd_indexed items
  | record entries' =>
    cases he
    rfl
  | map entries' =>
    refine map_of_mapM (fun e named hnamed => ?_) he
    obtain ⟨key, -, heq⟩ := exists_of_bind_eq_ok hnamed
    cases heq
    rfl

theorem succeeds_toValue_node_iff {path : List Nat} {id : Nat} {c : Container} (hid : id ∉ path)
    (hc : h[id]? = some c) : Succeeds (h.toValue path (.node id)) ↔
      h.HasTextKeys id ∧ ∀ d ∈ c.children, Succeeds (h.toValue (id :: path) d) := by
  rw [toValue, dif_neg hid]
  split
  · rename_i hnone
    rw [hc] at hnone
    cases hnone
  · rename_i items harray
    rw [hc] at harray
    cases harray
    rw [succeeds_bind_pure_iff, succeeds_mapM_places_iff, ← succeeds_namedEntries_iff hc]
    exact ⟨fun hall => ⟨succeeds_ok _, hall⟩, fun hall => hall.2⟩
  · rename_i c' _ hc'
    obtain rfl : c = c' := Option.some.inj (hc.symm.trans hc')
    rw [succeeds_bind_iff, ← succeeds_namedEntries_iff hc]
    constructor
    · rintro ⟨entries, he, hvalues⟩
      refine ⟨⟨entries, he⟩, ?_⟩
      rw [← map_snd_of_namedEntries he]
      exact succeeds_entries_iff.1 (succeeds_bind_pure_iff.1 hvalues)
    · rintro ⟨⟨entries, he⟩, hall⟩
      refine ⟨entries, he, ?_⟩
      rw [← map_snd_of_namedEntries he] at hall
      exact succeeds_bind_pure_iff.2 (succeeds_entries_iff.2 hall)

/-- A datum that is no container holds none to come to. -/
theorem node_of_reaches {path : List Nat} {d : Datum} {target : Nat} (hr : h.Reaches path d target) :
    ∃ id c, d = .node id ∧ id ∉ path ∧ h[id]? = some c := by
  cases hr with
  | here hid hc => exact ⟨_, _, rfl, hid, hc⟩
  | child hid hc => exact ⟨_, _, rfl, hid, hc⟩

theorem succeeds_toValue_of_not_entered {path : List Nat} {d : Datum}
    (hd : ∀ id c, d = .node id → id ∉ path → h[id]? ≠ some c) : Succeeds (h.toValue path d) := by
  cases d with
  | node id =>
    rw [toValue]
    split
    · exact succeeds_ok _
    · rename_i hid
      split
      · exact succeeds_ok _
      · rename_i hc
        exact absurd hc (hd id _ rfl hid)
      · rename_i hc
        exact absurd hc (hd id _ rfl hid)
  | date d =>
    cases d <;> exact ⟨_, by rw [toValue]⟩
  | undefined | value v | bigint i | function | symbol => exact ⟨_, by rw [toValue]⟩

/-- A datum is converted exactly if every map that the walk comes to has keys with texts. The induction is on the
containers that the walk can still enter. -/
theorem succeeds_toValue_iff (path : List Nat) (d : Datum) :
    Succeeds (h.toValue path d) ↔ ∀ id, h.Reaches path d id → h.HasTextKeys id := by
  induction hn : h.unvisited path using Nat.strongRecOn generalizing path d with
  | ind n ih =>
    by_cases hentered : ∃ id c, d = .node id ∧ id ∉ path ∧ h[id]? = some c
    · obtain ⟨id, c, rfl, hid, hc⟩ := hentered
      have hlt : h.unvisited (id :: path) < n := hn ▸ unvisited_cons_lt hid hc
      rw [succeeds_toValue_node_iff hid hc]
      constructor
      · rintro ⟨hkeys, hchildren⟩ target hr
        rcases (reaches_node_iff hid hc).1 hr with rfl | ⟨d, hd, hr⟩
        · exact hkeys
        · exact (ih _ hlt _ d rfl).1 (hchildren d hd) target hr
      · intro hall
        refine ⟨hall id (.here hid hc), fun d hd => (ih _ hlt _ d rfl).2 fun target hr => ?_⟩
        exact hall target ((reaches_node_iff hid hc).2 (.inr ⟨d, hd, hr⟩))
    · constructor
      · intro _ target hr
        exact absurd (node_of_reaches hr) hentered
      · intro _
        exact succeeds_toValue_of_not_entered fun id c hd hid hc => hentered ⟨id, c, hd, hid, hc⟩

/-! ## Namespaces -/

/-- Whether every map that can be reached from the properties of a datum has keys with texts. -/
def PropertiesReadable (h : Heap) (d : Datum) : Prop :=
  ∀ inner ∈ (h.properties d).map Prod.snd, ∀ id, h.Reaches [] inner id → h.HasTextKeys id

/-- A container with properties is no map, and holds just their values. -/
theorem children_of_mem_properties {id : Nat} {inner : Datum}
    (hinner : inner ∈ (h.properties (.node id)).map Prod.snd) :
    ∃ c, h[id]? = some c ∧ c.children = (h.properties (.node id)).map Prod.snd ∧ h.HasTextKeys id := by
  cases hc : h[id]? with
  | none => simp [properties, hc] at hinner
  | some c =>
    cases c with
    | array items =>
      refine ⟨_, rfl, ?_, fun entries hmap => ?_⟩
      · simp only [properties, hc, map_snd_indexed]
        rfl
      · rw [hc] at hmap
        cases hmap
    | record entries =>
      refine ⟨_, rfl, ?_, fun entries hmap => ?_⟩
      · simp only [properties, hc]
        rfl
      · rw [hc] at hmap
        cases hmap
    | map entries => simp [properties, hc] at hinner

/-- A namespace is read exactly if what its properties reach has keys with texts. The walk leaves out references
back to the namespace itself, but these lead to nothing else. -/
theorem succeeds_toMapping_iff (d : Datum) : Succeeds (h.toMapping d) ↔ h.PropertiesReadable d := by
  unfold toMapping PropertiesReadable
  rw [succeeds_bind_pure_iff, succeeds_entries_iff]
  simp only [succeeds_toValue_iff]
  cases d with
  | node id =>
    constructor
    · intro hall inner hinner target hr
      obtain ⟨c, hc, hchildren, hkeys⟩ := children_of_mem_properties hinner
      rcases hr.avoid id with hr | rfl | ⟨c', hc', d, hd, hr⟩
      · exact hall inner hinner target hr
      · exact hkeys
      · -- from the last time in the namespace itself the walk goes on from one of its properties
        obtain rfl : c = c' := Option.some.inj (hc.symm.trans hc')
        rw [hchildren] at hd
        exact hall d hd target hr
    · intro hall inner hinner target hr
      exact hall inner hinner target (hr.mono (List.nil_subset _))
  | undefined | value v | bigint i | function | symbol | date d => exact Iff.rfl

end Heap

namespace Data

/-- Whether there are namespaces to read, and all maps in them have keys with texts. -/
def Readable (data : Data) : Prop :=
  data.root ≠ .value .null ∧ ∀ key ∈ (["variables", "conversationData", "userData"] : List Text),
    data.heap.PropertiesReadable (data.heap.property data.root key)

end Data

/-- The data of a caller become a context exactly if they can be read. -/
theorem succeeds_create_iff (data : Data) : Succeeds (Context.create data) ↔ data.Readable := by
  unfold Context.create Data.Readable
  split
  · rename_i hnull
    simp [hnull, not_succeeds_error]
  · rename_i root hroot
    have hne : data.root ≠ .value .null := fun hnull => hroot hnull
    simp only [List.forall_mem_cons, List.not_mem_nil, false_implies, implies_true, and_true, hne, ne_eq,
      not_false_eq_true, true_and, ← Heap.succeeds_toMapping_iff]
    exact succeeds_bind_and fun _ => succeeds_bind_and fun _ => succeeds_bind_pure_iff

end BraceTemplate
