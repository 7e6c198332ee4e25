import BraceTemplate.Command.ContextFile
import BraceTemplate.Proofs.Namespaces
import BraceTemplate.Proofs.Schemas

/-!
# The two forms of a context file

The variables of a context are given under their name in a full context, or as the whole of the file. Either way the same
context is made of them, but for the one key that the schema of a full context hides.

* `Represents.toMapping_eq` — a namespace that stands for a mapping is converted to it, made normal;
* `interpret_variables`, `interpret_bare` — what the two forms are read into;
* `create_contextData` — the context that is made of variables;
* `context_forms_agree_iff` — when the contexts of both forms are the same, and what they are if not.
-/

namespace BraceTemplate

namespace Heap

variable {h : Heap} {d : Datum} {m : Mapping Value}

/-- What stands for a mapping is no map. -/
theorem Represents.not_isMap (hr : h.Represents d (.mapping m)) : ¬ h.IsMap d := by
  rintro ⟨id, entries, rfl, hc⟩
  cases hr with
  | mapping hc' => cases hc.symm.trans hc'

theorem Represents.add {v : Value} {new : Container} (hr : h.Represents d v) : (h.add new).1.Represents d v :=
  hr.mono fun _ _ hc => getElem?_add_of_some hc

theorem Represents.toMapping_eq (hr : h.Represents d (.mapping m)) :
    h.toMapping d = .ok (Mapping.ofList (m.map fun e => (e.1, e.2.normalise))) := by
  have hvalue : h.toValue [] d = .ok (Value.mapping m).normalise := hr.toValue_eq .nil
  rw [Value.normalise, Value.normaliseEntries_eq] at hvalue
  exact toMapping_of_toValue hvalue hr.not_isMap

theorem Represents.ne_function {v : Value} (hr : h.Represents d v) : d ≠ .function := by
  rintro rfl
  cases hr

/-- What stands for a mapping holds no functions, so it is a record and nothing else. -/
theorem Represents.ofDatum_eq (hr : h.Represents d (.mapping m)) : DataKind.ofDatum h d = .record := by
  cases hr with
  | value => rfl
  | @mapping id entries values hc hkeys hentries =>
    have hall := (represents_record_iff hc).1 (.mapping hc hkeys hentries)
    rw [DataKind.ofDatum, hc]
    apply DataKind.ofRecord_of_forall_ne
    intro e he
    obtain ⟨v, hv⟩ := exists_represents_of_mem hall he
    exact hv.ne_function

end Heap

/-- The context whose variables are these, made normal. -/
def Context.ofVariables (m : Mapping Value) : Context :=
  ⟨Mapping.ofList (m.map fun e => (e.1, e.2.normalise)), [], []⟩

namespace ContextFile

variable {m : Mapping Value} {data : Data}

/-! ## Reading -/

/-- An object with another key than those of namespaces holds the variables, and so does one without keys. -/
theorem interpret_bare (hr : data.Represents (.mapping m)) (hother : m = [] ∨ ∃ key ∈ m.keys, key ∉ namespaces) :
    interpret data = .ok (contextData data.heap (.entries (data.heap.properties data.root)) .absent .absent) := by
  have hkeys := Heap.keys_eq_of_representsEntry hr.properties
  have hbare : (!(data.heap.properties data.root).isEmpty &&
      (data.heap.properties data.root).keys.all namespaces.contains) = false := by
    rcases hother with rfl | ⟨key, hkey, hnot⟩
    · rw [List.map_eq_nil_iff.1 hkeys]
      rfl
    · rw [hkeys, Bool.and_eq_false_iff, List.all_eq_false]
      exact .inr ⟨key, hkey, by simpa using hnot⟩
  unfold interpret
  rw [if_neg (by simp [isObject, hr.isMapping])]
  simp only [hbare]
  rfl

/-- The schema of a namespace keeps all its keys but the hidden one. -/
theorem namespaceSchema_of_represents {h : Heap} {path : List PathStep} {d : Datum} (hd : h.Represents d (.mapping m)) :
    namespaceSchema h path d = .valid (.entries ((h.properties d).filter fun e => e.1 != Schema.hiddenKey)) := by
  have hpresent : d ≠ .undefined := by
    rintro rfl
    cases hd
  have hgiven : namespaceSchema h path d = Namespace.entries <$> Schema.anyRecord h path d :=
    Schema.withDefault_of_ne hpresent
  rw [hgiven, Schema.anyRecord_eq_valid_iff.2 ⟨hd.ofDatum_eq, rfl⟩]
  rfl

/-- A full context with variables only is read into these, without the hidden key. -/
theorem interpret_variables (hr : data.Represents (.mapping [("variables", .mapping m)])) :
    ∃ d, data.heap.Represents d (.mapping m) ∧ interpret data = .ok (contextData data.heap
      (.entries ((data.heap.properties d).filter fun e => e.1 != Schema.hiddenKey)) .absent .absent) := by
  obtain ⟨⟨key, d⟩, rest, ⟨rfl, hd⟩, hnil, hproperties⟩ := List.forall₂_cons_right_iff.1 hr.properties
  obtain rfl := List.forall₂_nil_right_iff.1 hnil
  refine ⟨d, hd, ?_⟩
  have hread : fields.exactRecord.check data =
      .valid (.entries ((data.heap.properties d).filter fun e => e.1 != Schema.hiddenKey), .absent, .absent) := by
    have hvariables : data.heap.property data.root "variables" = d := by
      rw [Heap.property, hproperties]
      rfl
    have hconversation : data.heap.property data.root "conversationData" = .undefined := by
      rw [Heap.property, hproperties]
      rfl
    have huser : data.heap.property data.root "userData" = .undefined := by
      rw [Heap.property, hproperties]
      rfl
    rw [Schema.check, Fields.exactRecord, if_pos hr.ofDatum_eq, hproperties]
    simp only [fields, Fields.read_map, Fields.read_seq, Fields.field, hvariables, hconversation, huser,
      namespaceSchema_of_represents hd]
    rfl
  unfold interpret
  rw [if_neg (by simp [isObject, hr.isMapping])]
  simp only [hproperties, hread]
  rfl

/-! ## The context of a file -/

/-- Variables that stand for a mapping become the context with these variables, and no other data. -/
theorem create_contextData {h : Heap} {entries : Mapping Datum} (hall : List.Forall₂ h.RepresentsEntry entries m) :
    Context.create (contextData h (.entries entries) .absent .absent) = .ok (.ofVariables m) := by
  -- the variables come behind the data of the file, and the record of the namespaces behind the variables
  let held : Heap := (h.add (.record entries)).1
  let given : Mapping Datum := namespaces.zip [.node h.size, .undefined, .undefined]
  let whole : Heap := (held.add (.record given)).1
  have hvariables : held.Represents (.node h.size) (.mapping m) :=
    (Heap.represents_record_iff (h.getElem?_add_size _)).2 (hall.imp fun e f hpair => ⟨hpair.1, hpair.2.add⟩)
  have hproperty : ∀ key, whole.property (.node held.size) key = (Mapping.get? given key).getD .undefined :=
    Heap.property_record (held.getElem?_add_size _)
  have hdata : contextData h (.entries entries) .absent .absent = ⟨whole, .node held.size⟩ := rfl
  rw [hdata]
  apply Context.create_eq_ok
  · simp
  · rw [hproperty]
    exact hvariables.add.toMapping_eq
  · rw [hproperty]
    rfl
  · rw [hproperty]
    rfl

end ContextFile

namespace Context

variable {m : Mapping Value}

theorem mem_keys_ofVariables {key : Text} : key ∈ (ofVariables m).bindings.keys ↔ key ∈ m.keys := by
  rw [ofVariables, Mapping.mem_keys_ofList, Mapping.keys, Mapping.keys, List.map_map]
  exact Iff.rfl

/-- Without the hidden key the context is another one if the key is there. -/
theorem ofVariables_filter_eq_iff :
    ofVariables (m.filter fun e => e.1 != Schema.hiddenKey) = ofVariables m ↔ Schema.hiddenKey ∉ m.keys := by
  constructor
  · intro hsame hmem
    rw [← mem_keys_ofVariables, ← hsame, mem_keys_ofVariables] at hmem
    obtain ⟨e, he, hkey⟩ := List.mem_map.1 hmem
    exact bne_iff_ne.1 (List.mem_filter.1 he).2 hkey
  · intro hnot
    have hall : (m.filter fun e => e.1 != Schema.hiddenKey) = m := by
      rw [List.filter_eq_self]
      intro e he
      rw [bne_iff_ne]
      intro heq
      exact hnot (List.mem_map.2 ⟨e, he, heq⟩)
    rw [hall]

end Context

/-- Both forms of a context file can be read, and a context is made of either. The form without namespaces gives all
variables, made normal and in order; the other one gives all but a variable with the hidden key. So both give the same
context exactly if there is no such variable. -/
theorem context_forms_agree_iff {m : Mapping Value} {full bare : Data}
    (hfull : full.Represents (.mapping [("variables", .mapping m)])) (hbare : bare.Represents (.mapping m))
    (hother : m = [] ∨ ∃ key ∈ m.keys, key ∉ ContextFile.namespaces) :
    ∃ fullContext bareContext : Data,
      ContextFile.interpret full = .ok fullContext ∧ ContextFile.interpret bare = .ok bareContext ∧
      Context.create fullContext = .ok (.ofVariables (m.filter fun e => e.1 != Schema.hiddenKey)) ∧
      Context.create bareContext = .ok (.ofVariables m) ∧
      (Context.create fullContext = Context.create bareContext ↔ Schema.hiddenKey ∉ m.keys) := by
  obtain ⟨d, hd, hfullRead⟩ := ContextFile.interpret_variables hfull
  have hbareRead := ContextFile.interpret_bare hbare hother
  have hkept : List.Forall₂ full.heap.RepresentsEntry ((full.heap.properties d).filter fun e => e.1 != Schema.hiddenKey)
      (m.filter fun e => e.1 != Schema.hiddenKey) := by
    refine List.rel_filter ?_ hd.properties
    intro e f hpair
    exact iff_of_eq (congrArg (fun key => (key != Schema.hiddenKey) = true) hpair.1)
  have hfullContext := ContextFile.create_contextData hkept
  have hbareContext := ContextFile.create_contextData hbare.properties
  refine ⟨_, _, hfullRead, hbareRead, hfullContext, hbareContext, ?_⟩
  rw [hfullContext, hbareContext, Except.ok.injEq]
  exact Context.ofVariables_filter_eq_iff

/-- Variables in a heap, with the hidden key among them, and the data of both forms. -/
def Heap.prototyped : Heap :=
  #[.record [("x", .text "1")], .record [("10", .value (.ofList [.null])), ("name", .text "Ada"), ("__proto__", .node 0)],
    .record [("variables", .node 1)]]

/-- The full form loses the variable with the hidden key, and only that. -/
theorem context_forms_agree_iff_prototyped :
    let m : Mapping Value := [("10", .ofList [.null]), ("name", .text "Ada"), ("__proto__", .mapping [("x", .text "1")])]
    let full : Data := ⟨Heap.prototyped, .node 2⟩
    let bare : Data := ⟨Heap.prototyped, .node 1⟩
    (full.Represents (.mapping [("variables", .mapping m)]) ∧ bare.Represents (.mapping m) ∧
      ∃ key ∈ m.keys, key ∉ ContextFile.namespaces) ∧
    ∃ fullContext bareContext : Data,
      ContextFile.interpret full = .ok fullContext ∧ ContextFile.interpret bare = .ok bareContext ∧
      Context.create fullContext = .ok ⟨m.take 2, [], []⟩ ∧ Context.create bareContext = .ok ⟨m, [], []⟩ := by
  intro m full bare
  have hinner : Heap.prototyped.Represents (.node 0) (.mapping [("x", .text "1")]) :=
    (Heap.represents_record_iff rfl).2 (.cons ⟨rfl, .value _⟩ .nil)
  have hvariables : Heap.prototyped.Represents (.node 1) (.mapping m) := (Heap.represents_record_iff rfl).2
    (.cons ⟨rfl, .value _⟩ (.cons ⟨rfl, .value _⟩ (.cons ⟨rfl, hinner⟩ .nil)))
  have hbare : bare.Represents (.mapping m) := hvariables
  have hfull : full.Represents (.mapping [("variables", .mapping m)]) :=
    (Heap.represents_record_iff rfl).2 (.cons ⟨rfl, hvariables⟩ .nil)
  have hother : ∃ key ∈ m.keys, key ∉ ContextFile.namespaces := ⟨"name", by decide, by decide⟩
  obtain ⟨fullContext, bareContext, hfullRead, hbareRead, hfullContext, hbareContext, -⟩ :=
    context_forms_agree_iff hfull hbare (.inr hother)
  have hkept : Context.ofVariables (m.filter fun e => e.1 != Schema.hiddenKey) = ⟨m.take 2, [], []⟩ := rfl
  have hall : Context.ofVariables m = ⟨m, [], []⟩ := rfl
  rw [hkept] at hfullContext
  rw [hall] at hbareContext
  exact ⟨⟨hfull, hbare, hother⟩, fullContext, bareContext, hfullRead, hbareRead, hfullContext, hbareContext⟩

/-- A variable with the hidden key is in the context of the one form, and not in that of the other. -/
theorem hidden_variable_is_lost :
    let m : Mapping Value := [("__proto__", .mapping [("x", .text "1")])]
    (∃ data, ContextFile.interpret (.ofValue (.mapping [("variables", .mapping m)])) = .ok data ∧
      Context.create data = .ok ⟨[], [], []⟩) ∧
    ∃ data, ContextFile.interpret (.ofValue (.mapping m)) = .ok data ∧ Context.create data = .ok ⟨m, [], []⟩ := by
  intro m
  have hfull : ContextFile.interpret (.ofValue (.mapping [("variables", .mapping m)])) =
      .ok (ContextFile.contextData #[] (.entries []) .absent .absent) := rfl
  have hbare : ContextFile.interpret (.ofValue (.mapping m)) =
      .ok (ContextFile.contextData #[] (.entries (m.map fun e => (e.1, .value e.2))) .absent .absent) := rfl
  have hheld : List.Forall₂ (Heap.RepresentsEntry #[]) (m.map fun e => (e.1, .value e.2)) m :=
    (Heap.Represents.value (.mapping m)).properties
  exact ⟨⟨_, hfull, ContextFile.create_contextData .nil⟩, ⟨_, hbare, ContextFile.create_contextData hheld⟩⟩

end BraceTemplate
