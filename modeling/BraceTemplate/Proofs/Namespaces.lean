import BraceTemplate.Proofs.Representations

/-!
# Data as a whole namespace

A caller's data are converted in two ways: as a value, and by their properties as a whole namespace. Where the value is a
mapping both give it, with one exception: a map has entries, which its value holds, but no properties.

* `toValue_node_eq_map`, `toValue_mapping_eq_map` — other mappings are converted in one way only, also where that fails;
* `toValue_congr` — what is around data does not matter unless they lead back to it;
* `namespaces_agree_iff` — where both ways agree, and what a namespace holds that has the data under a key.
-/

namespace BraceTemplate

namespace Heap

variable {h : Heap} {path around : List Nat} {d : Datum} {id : Nat} {m : Mapping Value}

/-- Whether a datum refers to a map. -/
def IsMap (h : Heap) (d : Datum) : Prop :=
  ∃ id entries, d = .node id ∧ h[id]? = some (.map entries)

/-! ## One datum in two ways -/

/-- The properties of a container are converted inside it. -/
theorem toMapping_node (id : Nat) : h.toMapping (.node id) = (do
    let values ← ((h.properties (.node id)).filter fun e => !e.2.isDropped).mapM fun e => do
      return (e.1, ← h.toValue [id] e.2)
    return Mapping.ofList values) :=
  rfl

theorem toValue_node_eq_map {entries : Mapping Datum} (hc : h[id]? = some (.record entries)) :
    h.toValue [] (.node id) = (h.toMapping (.node id)).map Value.mapping := by
  rw [toValue_of_record List.not_mem_nil hc, toMapping_node, properties_record hc]
  cases (entries.filter fun e => !e.2.isDropped).mapM fun e => do return (e.1, ← h.toValue [id] e.2) <;> rfl

theorem toValue_mapping_eq_map (entries : Mapping Value) :
    h.toValue [] (.value (.mapping entries)) = (h.toMapping (.value (.mapping entries))).map Value.mapping := by
  have hkept : ((entries.map fun e => (e.1, Datum.value e.2)).filter fun e => !e.2.isDropped) =
      entries.map fun e => (e.1, Datum.value e.2) :=
    filter_isDropped_of_represents (Represents.value (h := h) (.mapping entries)).properties
  have hvalues : ((entries.map fun e => (e.1, Datum.value e.2)).mapM fun e => do
      return (e.1, ← h.toValue [] e.2)) = .ok (entries.map fun e => (e.1, e.2.normalise)) := by
    rw [mapM_eq_ok_iff, List.forall₂_map_left_iff, List.forall₂_map_right_iff, List.forall₂_same]
    intro e _
    rw [toValue]
    rfl
  rw [toValue_alone (by simp), Datum.alone, Value.normalise, Value.normaliseEntries_eq]
  change _ = Except.map _ ((((entries.map fun e => (e.1, Datum.value e.2)).filter fun e => !e.2.isDropped).mapM
    fun e => do return (e.1, ← h.toValue [] e.2)) >>= fun values => .ok (Mapping.ofList values))
  rw [hkept, hvalues]
  rfl

/-- A map has no properties. -/
theorem toMapping_of_isMap (hmap : h.IsMap d) : h.toMapping d = .ok [] := by
  obtain ⟨id, entries, rfl, hc⟩ := hmap
  have hproperties : h.properties (.node id) = [] := by
    rw [properties, hc]
  rw [toMapping_node, hproperties]
  rfl

/-- What is converted to a mapping is a mapping or a container with entries. -/
theorem toMapping_of_toValue (hv : h.toValue [] d = .ok (.mapping m)) (hmap : ¬ h.IsMap d) : h.toMapping d = .ok m := by
  -- an array is converted to a list, and what is no container to a mapping only if it is one
  have hsame : h.toValue [] d = (h.toMapping d).map Value.mapping := by
    by_cases hentered : ∃ id c, d = .node id ∧ h[id]? = some c
    · obtain ⟨id, c, rfl, hc⟩ := hentered
      cases c with
      | array items =>
        rw [toValue_array List.not_mem_nil hc] at hv
        obtain ⟨values, -, heq⟩ := exists_of_bind_eq_ok hv
        cases heq
      | record entries => exact toValue_node_eq_map hc
      | map entries => exact absurd ⟨id, entries, rfl, hc⟩ hmap
    · rw [toValue_alone fun id c hd hc => hentered ⟨id, c, hd, hc⟩] at hv
      cases d with
      | value v =>
        cases v with
        | mapping entries => exact toValue_mapping_eq_map entries
        | number n =>
          rw [Datum.alone, Value.normalise] at hv
          split_ifs at hv <;> cases hv
        | null | bool | text | list => cases hv
      | date d => cases d <;> cases hv
      | undefined | bigint | function | symbol | node => cases hv
  rw [hv] at hsame
  cases hm : h.toMapping d with
  | error fault =>
    rw [hm] at hsame
    cases hsame
  | ok m' =>
    rw [hm] at hsame
    cases hsame
    rfl

/-! ## Inside other containers -/

/-- Data are converted as before where containers join or leave those around them that they do not lead to. -/
theorem toValue_congr {v : Value} (hv : h.toValue path d = .ok v)
    (hagree : ∀ id, h.Reaches [] d id → (id ∈ path ↔ id ∈ around)) : h.toValue around d = .ok v := by
  have hkeys := (succeeds_toValue_iff path d).1 ⟨v, hv⟩
  obtain ⟨tree, hu⟩ := exists_unfolds path d hkeys
  rw [toValue_of_unfolds (hu.congr hagree), ← toValue_of_unfolds hu, hv]

/-- From a container that holds no container but itself one comes to no other one. -/
theorem not_reaches_of_children {target : Nat} {c : Container} (hc : h[id]? = some c) (hne : target ≠ id)
    (hown : ∀ inner, .node inner ∈ c.children → inner = id) : ¬ h.Reaches [] (.node id) target := by
  rw [reaches_node_iff List.not_mem_nil hc]
  rintro (heq | ⟨d, hd, hr⟩)
  · exact hne heq
  · -- the walk is inside of the container already, and does not enter it again
    obtain ⟨inner, _, rfl, hinner, -⟩ := node_of_reaches hr
    exact hinner (List.mem_singleton.2 (hown inner hd))

/-- What is left out of a mapping is no mapping itself. -/
theorem isDropped_eq_of_toValue (hv : h.toValue path d = .ok (.mapping m)) : d.isDropped = false := by
  cases d with
  | undefined | function | symbol =>
    rw [toValue] at hv
    cases hv
  | value | bigint | date | node => rfl

/-- A record that data do not lead to holds them under a key as they are by themselves. -/
theorem toMapping_around {outer : Nat} {key : Text} (hv : h.toValue [] d = .ok (.mapping m))
    (hc : h[outer]? = some (.record [(key, d)])) (hout : ¬ h.Reaches [] d outer) :
    h.toMapping (.node outer) = .ok [(key, .mapping m)] := by
  have hinner : h.toValue [outer] d = .ok (.mapping m) := by
    apply toValue_congr hv
    intro id hr
    refine iff_of_false List.not_mem_nil ?_
    intro hmem
    rw [List.mem_singleton] at hmem
    exact hout (hmem ▸ hr)
  have hkept : ([(key, d)].filter fun e => !e.2.isDropped) = [(key, d)] := by
    rw [List.filter_eq_self, List.forall_mem_singleton, isDropped_eq_of_toValue hv]
    rfl
  have hvalues : ([(key, d)].mapM fun e => do return (e.1, ← h.toValue [outer] e.2)) = .ok [(key, .mapping m)] := by
    rw [List.mapM_cons, hinner]
    rfl
  rw [toMapping_node, properties_record hc, hkept, hvalues]
  exact congrArg Except.ok (Mapping.ofList_of_ordered (List.pairwise_singleton _ _))

end Heap

/-! ## Contexts -/

theorem Context.create_eq_ok {data : Data} {bindings conversationData userData : Mapping Value}
    (hroot : data.root ≠ .value .null)
    (hbindings : data.heap.toMapping (data.heap.property data.root "variables") = .ok bindings)
    (hconversation : data.heap.toMapping (data.heap.property data.root "conversationData") = .ok conversationData)
    (huser : data.heap.toMapping (data.heap.property data.root "userData") = .ok userData) :
    create data = .ok ⟨bindings, conversationData, userData⟩ := by
  unfold create
  split
  · rename_i hnull
    exact absurd hnull hroot
  · simp only [hbindings, hconversation, huser]
    rfl

/-- What a context holds under the name of a namespace is the mapping of what the caller's data hold there. -/
theorem Context.namespace_of_create {data : Data} {ctx : Context} {name : Text} (hctx : create data = .ok ctx)
    (hname : name ∈ (["variables", "conversationData", "userData"] : List Text)) :
    ∃ m, data.heap.toMapping (data.heap.property data.root name) = .ok m ∧
      ctx.toValue.path? [name] = some (.mapping m) := by
  unfold create at hctx
  split at hctx
  · cases hctx
  · obtain ⟨bindings, hbindings, hctx⟩ := exists_of_bind_eq_ok hctx
    obtain ⟨conversationData, hconversation, hctx⟩ := exists_of_bind_eq_ok hctx
    obtain ⟨userData, huser, hctx⟩ := exists_of_bind_eq_ok hctx
    cases hctx
    simp only [List.mem_cons, List.not_mem_nil, or_false] at hname
    rcases hname with rfl | rfl | rfl
    · exact ⟨bindings, hbindings, rfl⟩
    · exact ⟨conversationData, hconversation, rfl⟩
    · exact ⟨userData, huser, rfl⟩

/-- Data whose value is a mapping are converted to it as a whole namespace too, unless they are a map with entries: as a
whole namespace a map is empty.

In every context whose namespace is given by such data, and they are no map, the namespace is their value. One level
deeper, under the only key of a record that they do not lead to, they are their value in any case. -/
theorem namespaces_agree_iff {data : Data} {m : Mapping Value} (hm : data.toValue = .ok (.mapping m)) :
    (data.toMapping = .ok m ↔ ¬ data.heap.IsMap data.root ∨ m = []) ∧
    (data.heap.IsMap data.root → data.toMapping = .ok []) ∧
    ∀ (root : Datum) (ctx : Context) (name : Text), Context.create ⟨data.heap, root⟩ = .ok ctx →
      name ∈ (["variables", "conversationData", "userData"] : List Text) →
      (data.heap.property root name = data.root → ¬ data.heap.IsMap data.root →
        ctx.toValue.path? [name] = some (.mapping m)) ∧
      ∀ (key : Text) (outer : Nat), data.heap[outer]? = some (.record [(key, data.root)]) →
        ¬ data.heap.Reaches [] data.root outer → data.heap.property root name = .node outer →
        ctx.toValue.path? [name] = some (.mapping [(key, .mapping m)]) := by
  refine ⟨?_, Heap.toMapping_of_isMap, ?_⟩
  · by_cases hmap : data.heap.IsMap data.root
    · have hempty : data.toMapping = .ok [] := Heap.toMapping_of_isMap hmap
      rw [hempty, Except.ok.injEq, or_iff_right (not_not.2 hmap), eq_comm]
    · exact iff_of_true (Heap.toMapping_of_toValue hm hmap) (.inl hmap)
  · intro root ctx name hctx hname
    obtain ⟨held, hheld, hpath⟩ := Context.namespace_of_create hctx hname
    constructor
    · intro hwhole hmap
      rw [hwhole, Heap.toMapping_of_toValue hm hmap] at hheld
      rw [hpath, Except.ok.inj hheld]
    · intro key outer hc hout hinside
      rw [hinside, Heap.toMapping_around hm hc hout] at hheld
      rw [hpath, Except.ok.inj hheld]

/-- A record that holds itself, one around it, and the data of a context with either. -/
def Heap.wrapped : Heap :=
  #[.record [("self", .node 0), ("n", .bigint 7)], .record [("inner", .node 0)],
    .record [("variables", .node 0), ("userData", .node 1)]]

/-- The record is null inside itself at either level. -/
theorem namespaces_agree_iff_wrapped :
    let m : Mapping Value := [("self", .null), ("n", .text "7")]
    let ctx : Context := ⟨m, [], [("inner", .mapping m)]⟩
    (Data.toValue ⟨Heap.wrapped, .node 0⟩ = .ok (.mapping m) ∧ ¬ Heap.wrapped.IsMap (.node 0) ∧
      ¬ Heap.wrapped.Reaches [] (.node 0) 1 ∧ Context.create ⟨Heap.wrapped, .node 2⟩ = .ok ctx) ∧
    Data.toMapping ⟨Heap.wrapped, .node 0⟩ = .ok m ∧ ctx.toValue.path? ["variables"] = some (.mapping m) ∧
    ctx.toValue.path? ["userData"] = some (.mapping [("inner", .mapping m)]) := by
  intro m ctx
  have hm : Data.toValue ⟨Heap.wrapped, .node 0⟩ = .ok (.mapping m) := Heap.toValue_of_walk rfl
  have hmap : ¬ Heap.wrapped.IsMap (.node 0) := by
    rintro ⟨id, entries, heq, hc⟩
    cases heq
    cases hc
  have hc : Heap.wrapped[0]? = some (.record [("self", .node 0), ("n", .bigint 7)]) := rfl
  have hout : ¬ Heap.wrapped.Reaches [] (.node 0) 1 :=
    Heap.not_reaches_of_children hc (by decide) (by simp [Container.children])
  have hctx : Context.create ⟨Heap.wrapped, .node 2⟩ = .ok ctx :=
    Context.create_eq_ok (by simp) (Heap.toMapping_of_toValue hm hmap) rfl (Heap.toMapping_around hm rfl hout)
  rcases namespaces_agree_iff hm with ⟨hsame, -, hcontexts⟩
  have hwhole := (hcontexts (.node 2) ctx "variables" hctx (by decide)).1 rfl hmap
  have hinside := (hcontexts (.node 2) ctx "userData" hctx (by decide)).2 "inner" 1 rfl hout rfl
  exact ⟨⟨hm, hmap, hout, hctx⟩, hsame.2 (.inl hmap), hwhole, hinside⟩

/-- A map, a record around it, and the data of a context with either. -/
def Heap.keyed : Heap :=
  #[.map [(.text "a", .bigint 1)], .record [("inner", .node 0)],
    .record [("variables", .node 0), ("userData", .node 1)]]

/-- A map holds its entries as a value, and one level deeper, but is empty as a whole namespace. -/
theorem map_is_empty_namespace :
    Data.toValue ⟨Heap.keyed, .node 0⟩ = .ok (.mapping [("a", .text "1")]) ∧
    Data.toMapping ⟨Heap.keyed, .node 0⟩ = .ok [] ∧
    Context.create ⟨Heap.keyed, .node 2⟩ = .ok ⟨[], [], [("inner", .mapping [("a", .text "1")])]⟩ := by
  have hvalue : Data.toValue ⟨Heap.keyed, .node 0⟩ = .ok (.mapping [("a", .text "1")]) := Heap.toValue_of_walk rfl
  have hmapping : Data.toMapping ⟨Heap.keyed, .node 0⟩ = .ok [] := Heap.toMapping_of_isMap ⟨0, _, rfl, rfl⟩
  have hc : Heap.keyed[0]? = some (.map [(.text "a", .bigint 1)]) := rfl
  have hout : ¬ Heap.keyed.Reaches [] (.node 0) 1 :=
    Heap.not_reaches_of_children hc (by decide) (by simp [Container.children])
  have hinner : Heap.keyed.toMapping (.node 1) = .ok [("inner", .mapping [("a", .text "1")])] :=
    Heap.toMapping_around hvalue rfl hout
  exact ⟨hvalue, hmapping, Context.create_eq_ok (by simp) hmapping rfl hinner⟩

end BraceTemplate
