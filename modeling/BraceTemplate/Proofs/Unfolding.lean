import BraceTemplate.Proofs.Ancestors

/-!
# Data as a tree

The containers of a caller's data are shared and lie in circles. Unfolded from the root they are a tree: a
container stands in it once for each way to it, and a way ends where it comes to a container that it is inside
of. The conversion is said of this tree:

* `exists_unfolds`, `Unfolds.unique` — data have exactly one unfolding;
* `toValue_of_unfolds` — the value of data is that of the unfolding, in which just the ends of circles are null;
* `Unfolds.congr` — around a container that does not lead to itself it does not matter what it is inside of;
* `conversion_follows_unfolding` — all of it for a whole graph and for each of its places.
-/

namespace BraceTemplate

/-! ## Unfolded data -/

/-- A graph of containers as a tree. -/
inductive Unfolded where
  /-- A datum that is no container. -/
  | leaf (d : Datum)
  /-- A reference back to a container around it. -/
  | back
  /-- The trees of the items, and the gaps between them. -/
  | list (items : List (Option Unfolded))
  | mapping (entries : List (Text × Unfolded))

namespace Unfolded

/-- What a mapping leaves out. -/
def isDropped : Unfolded → Bool
  | leaf d => d.isDropped
  | _ => false

/-- What a tree consists of. -/
def children : Unfolded → List Unfolded
  | leaf _ | back => []
  | list items => items.reduceOption
  | mapping entries => entries.map Prod.snd

/-- The tree at a place, which is given by the number of the child at each level. -/
def at? (tree : Unfolded) : List Nat → Option Unfolded
  | [] => some tree
  | i :: steps => tree.children[i]?.bind fun child => child.at? steps

mutual

/-- The value of a tree. -/
def toValue : Unfolded → Value
  | leaf d => d.alone
  | back => .null
  | list items => .list (toValues items)
  | mapping entries => .mapping (Mapping.ofList (toEntries entries))

/-- The values of the items of a list. -/
def toValues : List (Option Unfolded) → List (Option Value)
  | [] => []
  | none :: rest => none :: toValues rest
  | some tree :: rest => some (toValue tree) :: toValues rest

/-- The values of the entries that a mapping holds. -/
def toEntries : List (Text × Unfolded) → List (Text × Value)
  | [] => []
  | (key, tree) :: rest => if tree.isDropped then toEntries rest else (key, toValue tree) :: toEntries rest

end

theorem at?_concat (tree : Unfolded) (steps : List Nat) (i : Nat) :
    tree.at? (steps ++ [i]) = (tree.at? steps).bind fun inner => inner.children[i]? := by
  induction steps generalizing tree with
  | nil => simp [at?]
  | cons j steps ih =>
    rw [List.cons_append, at?, at?, Option.bind_assoc]
    exact congrArg _ (funext fun child => ih child)

end Unfolded

namespace Heap

variable {h : Heap} {path : List Nat} {d : Datum} {id : Nat} {c : Container} {tree other : Unfolded}

/-- Whether a tree is of the kind of a container, with its gaps or with the names of its entries. -/
inductive Names (h : Heap) : Container → Unfolded → Prop
  | list {items : List (Option Datum)} {trees : List (Option Unfolded)} :
      SameGaps items trees → Names h (.array items) (.list trees)
  | mapping {c : Container} {entries : List (Text × Datum)} {trees : List (Text × Unfolded)} :
      (∀ items, c ≠ .array items) → h.namedEntries c = .ok entries →
      entries.map Prod.fst = trees.map Prod.fst → Names h c (.mapping trees)

/-- The tree of a datum that stands inside the containers of `path`. -/
inductive Unfolds (h : Heap) : List Nat → Datum → Unfolded → Prop
  | leaf {path : List Nat} {d : Datum} : (∀ id c, d = .node id → h[id]? ≠ some c) → Unfolds h path d (.leaf d)
  | back {path : List Nat} {id : Nat} {c : Container} : id ∈ path → h[id]? = some c →
      Unfolds h path (.node id) .back
  | container {path : List Nat} {id : Nat} {c : Container} {tree : Unfolded} : id ∉ path → h[id]? = some c →
      Names h c tree → c.children.length = tree.children.length →
      (∀ (i : Nat) (d : Datum) (inner : Unfolded), c.children[i]? = some d → tree.children[i]? = some inner →
        Unfolds h (id :: path) d inner) →
      Unfolds h path (.node id) tree

/-! ## There is one unfolding -/

/-- The names and the children make the tree. -/
theorem Names.eq_of_children (hn : h.Names c tree) (ho : h.Names c other)
    (hchildren : tree.children = other.children) : tree = other := by
  cases hn with
  | list hgaps =>
    cases ho with
    | list hgaps' => exact congrArg Unfolded.list (eq_of_items (hgaps.symm.trans hgaps') hchildren)
    | mapping harray => exact absurd rfl (harray _)
  | mapping harray hentries hnames =>
    cases ho with
    | list => exact absurd rfl (harray _)
    | mapping _ hentries' hnames' =>
      obtain rfl := Except.ok.inj (hentries.symm.trans hentries')
      have hzip := List.zip_of_prod (hnames.symm.trans hnames') hchildren
      exact congrArg Unfolded.mapping (hzip.trans (List.zip_of_prod rfl rfl).symm)

theorem Unfolds.unique (hu : h.Unfolds path d tree) (ho : h.Unfolds path d other) : tree = other := by
  induction hu generalizing other with
  | leaf halone =>
    cases ho with
    | leaf => rfl
    | back _ hc | container _ hc => exact absurd hc (halone _ _ rfl)
  | back hid hc =>
    cases ho with
    | leaf halone => exact absurd hc (halone _ _ rfl)
    | back => rfl
    | container hid' => exact absurd hid hid'
  | container hid hc hnames hlength _ ih =>
    cases ho with
    | leaf halone => exact absurd hc (halone _ _ rfl)
    | back hid' => exact absurd hid' hid
    | container _ hc' hnames' hlength' hinner' =>
      obtain rfl := Option.some.inj (hc.symm.trans hc')
      apply hnames.eq_of_children hnames'
      apply List.ext_getElem (hlength.symm.trans hlength')
      intro i hi hi'
      have hd := List.getElem?_eq_getElem (hlength.symm ▸ hi)
      exact ih i _ _ hd (List.getElem?_eq_getElem hi) (hinner' i _ _ hd (List.getElem?_eq_getElem hi'))

/-- Whatever trees stand for its children, a container has a tree of them. -/
theorem exists_names (hc : h[id]? = some c) (hkeys : h.HasTextKeys id) {trees : List Unfolded}
    (hlength : c.children.length = trees.length) : ∃ tree, h.Names c tree ∧ tree.children = trees := by
  by_cases harray : ∃ items, c = .array items
  · obtain ⟨items, rfl⟩ := harray
    obtain ⟨filled, hgaps, hitems⟩ := exists_sameGaps items trees hlength
    exact ⟨.list filled, .list hgaps, hitems⟩
  · obtain ⟨entries, hentries⟩ := (succeeds_namedEntries_iff hc).2 hkeys
    have hsize : (entries.map Prod.fst).length = trees.length := by
      rw [← hlength, ← map_snd_of_namedEntries hentries, List.length_map, List.length_map]
    have hnames : (((entries.map Prod.fst).zip trees)).map Prod.fst = entries.map Prod.fst :=
      List.map_fst_zip hsize.le
    exact ⟨_, .mapping (fun items hc => harray ⟨items, hc⟩) hentries hnames.symm, List.map_snd_zip hsize.ge⟩

/-- Data have an unfolding if every map that can be reached has keys with texts. The induction is on the
containers that are not entered yet. -/
theorem exists_unfolds (path : List Nat) (d : Datum) (hkeys : ∀ id, h.Reaches path d id → h.HasTextKeys id) :
    ∃ tree, h.Unfolds path d tree := by
  induction hn : h.unvisited path using Nat.strongRecOn generalizing path d with
  | ind n ih =>
    by_cases hentered : ∃ id c, d = .node id ∧ h[id]? = some c
    · obtain ⟨id, c, rfl, hc⟩ := hentered
      by_cases hid : id ∈ path
      · exact ⟨.back, .back hid hc⟩
      · have hchildren : ∀ d ∈ c.children, ∃ tree, h.Unfolds (id :: path) d tree := by
          intro d hd
          have hlt : h.unvisited (id :: path) < n := hn ▸ unvisited_cons_lt hid hc
          refine ih _ hlt (id :: path) d ?_ rfl
          intro target hr
          exact hkeys target ((reaches_node_iff hid hc).2 (.inr ⟨d, hd, hr⟩))
        obtain ⟨trees, htrees⟩ := exists_forall₂_of_forall_mem hchildren
        obtain ⟨hlength, hinner⟩ := forall₂_iff_getElem?.1 htrees
        obtain ⟨tree, hnames, rfl⟩ := exists_names hc (hkeys id (.here hid hc)) hlength
        exact ⟨tree, .container hid hc hnames hlength hinner⟩
    · exact ⟨.leaf d, .leaf fun id c hd hc => hentered ⟨id, c, hd, hc⟩⟩

/-! ## The value of data is that of their tree -/

/-- Only what is dropped of the data is dropped of the trees. -/
theorem Unfolds.isDropped_eq (hu : h.Unfolds path d tree) : tree.isDropped = d.isDropped := by
  cases hu with
  | leaf | back => rfl
  | container _ _ hnames => cases hnames <;> rfl

theorem mapM_items {items : List (Option Datum)} {trees : List (Option Unfolded)}
    (hall : List.Forall₂ (Option.Rel fun d inner => h.toValue path d = .ok inner.toValue) items trees) :
    (items.mapM fun item => item.mapM (h.toValue path)) = .ok (Unfolded.toValues trees) := by
  induction hall with
  | nil => rfl
  | cons hitem _ ih =>
    rw [List.mapM_cons, ih]
    cases hitem with
    | none => rfl
    | some hd =>
      rw [Option.mapM_some, hd]
      rfl

theorem mapM_entries {entries : List (Text × Datum)} {trees : List (Text × Unfolded)}
    (hall : List.Forall₂ (fun e inner => e.1 = inner.1 ∧ inner.2.isDropped = e.2.isDropped ∧
      h.toValue path e.2 = .ok inner.2.toValue) entries trees) :
    ((entries.filter fun e => !e.2.isDropped).mapM fun e => do return (e.1, ← h.toValue path e.2)) =
      .ok (Unfolded.toEntries trees) := by
  induction hall with
  | nil => rfl
  | @cons e inner _ _ hpair _ ih =>
    obtain ⟨hname, hdropped, hvalue⟩ := hpair
    rw [List.filter_cons, Unfolded.toEntries, hdropped]
    cases e.2.isDropped with
    | true => exact ih
    | false =>
      simp only [Bool.not_false, if_true, List.mapM_cons, hvalue, ih, hname]
      rfl

/-- The value of data inside containers is that of their tree. -/
theorem toValue_of_unfolds (hu : h.Unfolds path d tree) : h.toValue path d = .ok tree.toValue := by
  induction hu with
  | leaf halone => exact toValue_alone halone
  | back hid hc => exact toValue_of_mem hid
  | @container path id c tree hid hc hnames hlength hinner ih =>
    have hpairs : List.Forall₂ (fun d inner => inner.isDropped = d.isDropped ∧
        h.toValue (id :: path) d = .ok inner.toValue) c.children tree.children := by
      refine forall₂_iff_getElem?.2 ⟨hlength, ?_⟩
      intro i d inner hd ht
      exact ⟨(hinner i d inner hd ht).isDropped_eq, ih i d inner hd ht⟩
    cases hnames with
    | list hgaps =>
      have hvalues := mapM_items (forall₂_rel_of_items hgaps (hpairs.imp fun d inner hpair => hpair.2))
      rw [toValue_array hid hc, hvalues]
      rfl
    | mapping harray hentries hnames =>
      -- the entries that a container names hold its children
      rw [← map_snd_of_namedEntries hentries] at hpairs
      have hvalues := mapM_entries (forall₂_of_fst_snd hnames hpairs)
      rw [toValue_entries hid hc harray, hentries]
      exact congrArg (· >>= fun values => Except.ok (Value.mapping (Mapping.ofList values))) hvalues

/-! ## Places -/

/-- Whether a container leads to another one, or back to itself. -/
def Leads (h : Heap) (id target : Nat) : Prop :=
  ∃ c, h[id]? = some c ∧ ∃ d ∈ c.children, h.Reaches [] d target

/-- The data at the places of the unfolding of `root`, each with the containers around it. -/
inductive Place (h : Heap) (root : Datum) : List Nat → List Nat → Datum → Prop
  | root : Place h root [] [] root
  | child {steps path : List Nat} {id i : Nat} {c : Container} {d : Datum} : Place h root steps path (.node id) →
      id ∉ path → h[id]? = some c → c.children[i]? = some d → Place h root (steps ++ [i]) (id :: path) d

variable {root : Datum} {steps : List Nat} {target : Nat}

theorem Reaches.trans (hr : h.Reaches [] d id) (hleads : h.Leads id target) : h.Reaches [] d target := by
  obtain ⟨c, hc, d', hd', hr'⟩ := hleads
  induction hr with
  | here hid _ => exact .child hid hc hd' hr'
  | child hid hc' hd _ ih => exact .child hid hc' hd (ih hc)

/-- Every container around a place leads to what the datum there reaches. -/
theorem Place.leads {outer : Nat} (hplace : h.Place root steps path d) (houter : outer ∈ path)
    (hr : h.Reaches [] d target) : h.Leads outer target := by
  induction hplace with
  | root => cases houter
  | child _ _ hc hd ih =>
    have hmem := List.mem_of_getElem? hd
    rcases List.mem_cons.1 houter with rfl | hfurther
    · exact ⟨_, hc, _, hmem, hr⟩
    · exact ih hfurther (.child List.not_mem_nil hc hmem hr)

/-- The tree shows at every place the datum that is there. -/
theorem Place.exists_at? (hplace : h.Place root steps path d) (hroot : h.Unfolds [] root tree) :
    ∃ inner, tree.at? steps = some inner ∧ h.Unfolds path d inner := by
  induction hplace with
  | root => exact ⟨tree, rfl, hroot⟩
  | child _ hid hc hd ih =>
    obtain ⟨outer, hat, hu⟩ := ih
    cases hu with
    | leaf halone => exact absurd hc (halone _ _ rfl)
    | back hid' => exact absurd hid' hid
    | container _ hc' _ hlength hinner =>
      obtain rfl := Option.some.inj (hc.symm.trans hc')
      obtain ⟨hi, -⟩ := List.getElem?_eq_some_iff.1 hd
      have hchild := List.getElem?_eq_getElem (hlength ▸ hi)
      refine ⟨_, ?_, hinner _ _ _ hd hchild⟩
      rw [Unfolded.at?_concat, hat]
      exact hchild

/-- A way ends at a reference to a container around it, and nowhere else. -/
theorem Unfolds.eq_back_iff (hu : h.Unfolds path d tree) :
    tree = .back ↔ ∃ id ∈ path, ∃ c, d = .node id ∧ h[id]? = some c := by
  cases hu with
  | leaf halone =>
    constructor
    · intro hback
      cases hback
    · rintro ⟨id, -, c, rfl, hc⟩
      exact absurd hc (halone id c rfl)
  | back hid hc => exact iff_of_true rfl ⟨_, hid, _, rfl, hc⟩
  | container hid hc hnames =>
    constructor
    · rintro rfl
      cases hnames
    · rintro ⟨id, hmem, _, heq, -⟩
      cases heq
      exact absurd hmem hid

/-- The tree depends only on whether the containers that can be reached are around. -/
theorem Unfolds.congr {around : List Nat} (hu : h.Unfolds path d tree)
    (hagree : ∀ id, h.Reaches [] d id → (id ∈ path ↔ id ∈ around)) : h.Unfolds around d tree := by
  induction hu generalizing around with
  | leaf halone => exact .leaf halone
  | back hid hc => exact .back ((hagree _ (.here List.not_mem_nil hc)).1 hid) hc
  | container hid hc hnames hlength _ ih =>
    have hid' := (not_congr (hagree _ (.here List.not_mem_nil hc))).1 hid
    apply Unfolds.container hid' hc hnames hlength
    intro i d inner hd hinner
    apply ih i d inner hd hinner
    -- what the child reaches the container reaches, and both paths grow by the container
    intro target hr
    have hreached := Reaches.child List.not_mem_nil hc (List.mem_of_getElem? hd) hr
    rw [List.mem_cons, List.mem_cons, hagree target hreached]

/-- A container that does not lead to itself has the same tree at every place: none of the containers around it
can be reached from it. -/
theorem Place.unfolds_alone (hplace : h.Place root steps path (.node id)) (hself : ¬ h.Leads id id)
    (hu : h.Unfolds path (.node id) tree) : h.Unfolds [] (.node id) tree := by
  apply hu.congr
  intro target hr
  refine iff_of_false ?_ List.not_mem_nil
  intro houter
  apply hself
  obtain ⟨_, c, heq, hid, hc⟩ := node_of_reaches hr
  cases heq
  -- a container around the place leads to the one there, so that one must not reach it
  have hback : h.Leads target id := hplace.leads houter (.here hid hc)
  rcases (reaches_node_iff hid hc).1 hr with rfl | ⟨d, hd, hr⟩
  · exact hback
  · exact ⟨c, hc, d, hd, (hr.mono (List.nil_subset _)).trans hback⟩

/-! ## The walk at a place -/

theorem unvisited_le_size (h : Heap) (path : List Nat) : h.unvisited path ≤ h.size :=
  List.countP_le_length.trans_eq List.length_range

/-- Whatever was converted before at the same place, with a value or not, the walk gives the value of the tree. -/
theorem walk_after_siblings (hu : h.Unfolds path d tree) (before : List Datum) {depth : Nat}
    (hdepth : h.unvisited path < depth) :
    (h.walk depth d).run.run ((before.mapM (h.walk depth)).run.run path.toFinset).2 =
      (.ok tree.toValue, path.toFinset) := by
  have hbefore : Walk.Computes (before.mapM (h.walk depth)) path.toFinset (before.mapM (h.toValue path)) :=
    .mapM fun d _ => computes_walk depth path d hdepth
  have hwalk := computes_walk depth path d hdepth
  rw [toValue_of_unfolds hu] at hwalk
  rw [hbefore]
  exact hwalk

/-- The walk of a datum computes its value. -/
theorem toValue_of_walk {v : Value} (hwalk : ((h.walk (h.size + 1) d).run.run ∅).1 = .ok v) : h.toValue [] d = .ok v := by
  have hcomputes : (h.walk (h.size + 1) d).run.run ∅ = ((h.toValue [] d).mapError .fault, ∅) :=
    computes_walk (h.size + 1) [] d (Nat.lt_succ_of_le (h.unvisited_le_size []))
  rw [hcomputes] at hwalk
  cases hvalue : h.toValue [] d with
  | error fault =>
    rw [hvalue] at hwalk
    cases hwalk
  | ok w =>
    rw [hvalue] at hwalk
    cases hwalk
    rfl

end Heap

/-- Data whose maps have keys with texts, shared and in circles as they may be, have one unfolding, and their
value is that of the unfolding. The walk with one set of containers gives it too: it is never deeper than there
are containers, and its set is empty again in the end. At every place of the unfolding:

* the tree is the end of a way exactly if the datum refers to a container around it;
* a container that does not lead to itself is converted as it is by itself;
* the walk gives the value of the tree, whichever data were converted before at that place. -/
theorem conversion_follows_unfolding (h : Heap) (root : Datum)
    (hkeys : ∀ id, h.Reaches [] root id → h.HasTextKeys id) :
    ∃ tree, h.Unfolds [] root tree ∧ (∀ other, h.Unfolds [] root other → other = tree) ∧
      Data.toValue ⟨h, root⟩ = .ok tree.toValue ∧
      (∀ depth, h.size < depth → (h.walk depth root).run.run ∅ = (.ok tree.toValue, ∅)) ∧
      ∀ steps path d, h.Place root steps path d → ∃ inner, tree.at? steps = some inner ∧
        h.Unfolds path d inner ∧
        (inner = .back ↔ ∃ id ∈ path, ∃ c, d = .node id ∧ h[id]? = some c) ∧
        (∀ id, d = .node id → ¬ h.Leads id id →
          h.Unfolds [] d inner ∧ Data.toValue ⟨h, d⟩ = .ok inner.toValue) ∧
        ∀ (before : List Datum) (depth : Nat), h.unvisited path < depth →
          (h.walk depth d).run.run ((before.mapM (h.walk depth)).run.run path.toFinset).2 =
            (.ok inner.toValue, path.toFinset) := by
  obtain ⟨tree, hroot⟩ := Heap.exists_unfolds [] root hkeys
  refine ⟨tree, hroot, ?_, Heap.toValue_of_unfolds hroot, ?_, ?_⟩
  · intro other ho
    exact ho.unique hroot
  · intro depth hdepth
    have hbound := (h.unvisited_le_size []).trans_lt hdepth
    exact Heap.walk_after_siblings hroot [] hbound
  · intro steps path d hplace
    obtain ⟨inner, hat, hu⟩ := hplace.exists_at? hroot
    refine ⟨inner, hat, hu, hu.eq_back_iff, ?_, ?_⟩
    · rintro id rfl hself
      have halone := hplace.unfolds_alone hself hu
      exact ⟨halone, Heap.toValue_of_unfolds halone⟩
    · intro before depth hdepth
      exact Heap.walk_after_siblings hu before hdepth

/-- A record that holds itself and, twice, a map with a list, with a gap, that holds itself. -/
def Heap.knot : Heap :=
  #[.record [("first", .node 1), ("second", .node 1), ("self", .node 0), ("gone", .undefined)],
    .map [(.value (.bool true), .value (.text "x")), (.value .null, .node 2)],
    .array [some (.node 2), none, some (.bigint 7)]]

/-- The map is there in full both times; only the record in itself and the list in itself are null. -/
theorem conversion_follows_unfolding_knot :
    (∀ id, Heap.knot.Reaches [] (.node 0) id → Heap.knot.HasTextKeys id) ∧
    Data.toValue ⟨Heap.knot, .node 0⟩ = .ok (.mapping
      [("first", .mapping [("true", .text "x"), ("null", .list [some .null, none, some (.text "7")])]),
        ("second", .mapping [("true", .text "x"), ("null", .list [some .null, none, some (.text "7")])]),
        ("self", .null)]) := by
  have hkeys : ∀ id, Heap.knot.Reaches [] (.node 0) id → Heap.knot.HasTextKeys id := by
    intro id _ entries hmap e he
    match id with
    | 0 | 2 => cases hmap
    | 1 =>
      cases hmap
      revert e
      decide
    | n + 3 => cases hmap
  obtain ⟨tree, -, -, hvalue, hwalk, -⟩ := conversion_follows_unfolding Heap.knot (.node 0) hkeys
  have hresult := congrArg Prod.fst (hwalk 4 (by decide)).symm
  exact ⟨hkeys, hvalue.trans (congrArg Except.ok (Except.ok.inj hresult))⟩

end BraceTemplate
