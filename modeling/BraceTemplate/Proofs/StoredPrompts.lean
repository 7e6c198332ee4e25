import BraceTemplate.StoredPrompt
import BraceTemplate.Proofs.DateText
import BraceTemplate.Proofs.Schemas

/-!
# Stored prompts survive

A stored prompt that was read from data is described by data, and from these the same prompt is read again, whenever
that is: what was filled in by default is now given, what was ignored is gone, and the times come back from their
interchange form.

* `StoredPrompt.read_fields_iff` — what it takes to read a stored prompt, field by field;
* `StoredPrompt.Sound` — what every stored prompt has that was read, and `StoredPrompt.sound_of_ofData`;
* `StoredPrompt.ofData_describe` — a description is read as what it describes;
* `stored_prompts_survive` — the whole way.
-/

namespace BraceTemplate

namespace Schema

/-- What is read as a date is the date that was given, or a valid one. -/
theorem eq_or_isValid_of_date {h : Heap} {path : List PathStep} {d : Datum} {t : Instant} (hread : date h path d = .valid t) :
    d = .date (some t) ∨ t.isValid := by
  unfold date at hread
  split at hread
  · cases hread
    exact .inl rfl
  · split at hread
    · rename_i htext
      cases hread
      exact .inr (Date.isValid_of_ofText htext)
    · cases hread
  · cases hread

end Schema

namespace StoredPrompt

/-! ## Reading -/

/-- A stored prompt is read exactly if each of its fields is. -/
theorem read_fields_iff {heap h : Heap} {now : Date} {path : List PathStep} {d : Datum} {p : StoredPrompt} :
    (fields heap now).read h path d = .valid p ↔ p.heap = heap ∧ ∃ created updated,
      Schema.nonEmptyText h (path ++ [.key "id"]) (h.property d "id") = .valid p.id ∧
      Schema.nonEmptyText h (path ++ [.key "name"]) (h.property d "name") = .valid p.name ∧
      Schema.text h (path ++ [.key "description"]) (h.property d "description") = .valid p.description ∧
      Schema.text h (path ++ [.key "template"]) (h.property d "template") = .valid p.template ∧
      (Schema.listOf .text).withDefault [] h (path ++ [.key "variables"]) (h.property d "variables") =
        .valid p.declared ∧
      Schema.anyRecord.withDefault [] h (path ++ [.key "metadata"]) (h.property d "metadata") = .valid p.metadata ∧
      Schema.date.optional h (path ++ [.key "createdAt"]) (h.property d "createdAt") = .valid created ∧
      Schema.date.optional h (path ++ [.key "updatedAt"]) (h.property d "updatedAt") = .valid updated ∧
      Schema.text.withDefault "1.0" h (path ++ [.key "version"]) (h.property d "version") = .valid p.version ∧
      Schema.text.withDefault "general" h (path ++ [.key "category"]) (h.property d "category") =
        .valid p.category ∧
      (Schema.listOf .text).withDefault [] h (path ++ [.key "tags"]) (h.property d "tags") = .valid p.tags ∧
      p.created = created.elim now some ∧ p.updated = updated.elim now some := by
  simp only [fields, Fields.read_map, Fields.read_seq, Checked.ap_eq_valid_iff, Fields.field]
  -- the fields are nested, and the last one that is read is the outermost
  constructor
  · rintro ⟨_, tags, ⟨_, category, ⟨_, version, ⟨_, updated, ⟨_, created, ⟨_, metadata, ⟨_, declared, ⟨_, template,
      ⟨_, description, ⟨_, name, ⟨_, id, hmk, hid, rfl⟩, hname, rfl⟩, hdescription, rfl⟩, htemplate, rfl⟩, hdeclared,
      rfl⟩, hmetadata, rfl⟩, hcreated, rfl⟩, hupdated, rfl⟩, hversion, rfl⟩, hcategory, rfl⟩, htags, rfl⟩
    cases hmk
    exact ⟨rfl, created, updated, hid, hname, hdescription, htemplate, hdeclared, hmetadata, hcreated, hupdated,
      hversion, hcategory, htags, rfl, rfl⟩
  · rcases p with ⟨id, name, description, template, declared, ownHeap, metadata, ownCreated, ownUpdated, version, category,
      tags⟩
    rintro ⟨rfl, created, updated, hid, hname, hdescription, htemplate, hdeclared, hmetadata, hcreated, hupdated,
      hversion, hcategory, htags, rfl, rfl⟩
    exact ⟨_, _, ⟨_, _, ⟨_, _, ⟨_, _, ⟨_, _, ⟨_, _, ⟨_, _, ⟨_, _, ⟨_, _, ⟨_, _, ⟨_, _, rfl, hid, rfl⟩, hname, rfl⟩,
      hdescription, rfl⟩, htemplate, rfl⟩, hdeclared, rfl⟩, hmetadata, rfl⟩, hcreated, rfl⟩, hupdated, rfl⟩,
      hversion, rfl⟩, hcategory, rfl⟩, htags, rfl⟩

/-- What every stored prompt has that was read. -/
structure Sound (p : StoredPrompt) : Prop where
  id : p.id ≠ []
  name : p.name ≠ []
  /-- The metadata can be read once more, and are the same then. -/
  kind : DataKind.ofRecord p.metadata = .record
  unhidden : ∀ e ∈ p.metadata, e.1 ≠ Schema.hiddenKey
  created : ∃ t, p.created = some t ∧ t.isValid
  updated : ∃ t, p.updated = some t ∧ t.isValid

theorem get?_filter_hiddenKey {key : Text} (hkey : key ≠ Schema.hiddenKey) (entries : Mapping Datum) :
    Mapping.get? (entries.filter fun e => e.1 != Schema.hiddenKey) key = Mapping.get? entries key := by
  induction entries with
  | nil => rfl
  | cons e rest ih =>
    rcases e with ⟨k, d⟩
    by_cases hhidden : k = Schema.hiddenKey
    · have hne : (key == k) = false := beq_eq_false_iff_ne.2 fun h => hkey (h.trans hhidden)
      rw [List.filter_cons_of_neg (by simp [hhidden]), ih, Mapping.get?, Mapping.get?, List.lookup_cons, hne]
    · rw [List.filter_cons_of_pos (by simp [hhidden]), Mapping.get?, Mapping.get?, List.lookup_cons, List.lookup_cons]
      split
      · rfl
      · exact ih

/-- Metadata without the hidden key are of the kind that they were of with it. -/
theorem ofRecord_filter_hiddenKey (entries : Mapping Datum) :
    DataKind.ofRecord (entries.filter fun e => e.1 != Schema.hiddenKey) = DataKind.ofRecord entries := by
  have hthen : Text.ofString "then" ≠ Schema.hiddenKey := by decide
  have hcatch : Text.ofString "catch" ≠ Schema.hiddenKey := by decide
  simp only [DataKind.ofRecord, get?_filter_hiddenKey hthen, get?_filter_hiddenKey hcatch]

theorem ofRecord_map_value (entries : Mapping Value) :
    DataKind.ofRecord (entries.map fun (key, v) => (key, Datum.value v)) = .record := by
  apply DataKind.ofRecord_of_forall_ne
  rw [List.forall_mem_map]
  intro e _ hfunction
  cases hfunction

/-- What is a record has the properties of one. -/
theorem ofRecord_properties {h : Heap} {d : Datum} (hkind : DataKind.ofDatum h d = .record) :
    DataKind.ofRecord (h.properties d) = .record := by
  cases d with
  | value v =>
    cases v with
    | mapping entries => exact ofRecord_map_value entries
    | number n =>
      simp only [DataKind.ofDatum] at hkind
      split at hkind
      · cases hkind
      · cases hkind
    | null | bool | text | list => cases hkind
  | node id =>
    cases hc : h[id]? with
    | none => simp [DataKind.ofDatum, hc] at hkind
    | some c =>
      cases c with
      | array items => simp [DataKind.ofDatum, hc] at hkind
      | record entries =>
        simp only [DataKind.ofDatum, hc] at hkind
        simpa only [Heap.properties, hc] using hkind
      | map entries => simp [DataKind.ofDatum, hc] at hkind
  | undefined | bigint | function | symbol | date => cases hkind

theorem metadata_of_read {h : Heap} {path : List PathStep} {d : Datum} {m : Mapping Datum}
    (hread : Schema.anyRecord.withDefault [] h path d = .valid m) :
    DataKind.ofRecord m = .record ∧ ∀ e ∈ m, e.1 ≠ Schema.hiddenKey := by
  by_cases hundefined : d = .undefined
  · subst hundefined
    cases hread
    exact ⟨rfl, List.forall_mem_nil _⟩
  · rw [Schema.withDefault_of_ne hundefined] at hread
    rcases Schema.anyRecord_eq_valid_iff.1 hread with ⟨hkind, rfl⟩
    constructor
    · rw [ofRecord_filter_hiddenKey]
      exact ofRecord_properties hkind
    · intro e he
      exact bne_iff_ne.1 (List.mem_filter.1 he).2

theorem time_of_read {h : Heap} {path : List PathStep} {d : Datum} {now : Instant} {read : Option Instant}
    (hnow : now.isValid) (hd : ∀ t, d = .date (some t) → Instant.isValid t)
    (hread : Schema.date.optional h path d = .valid read) :
    ∃ t, read.elim (some now) some = some t ∧ Instant.isValid t := by
  cases read with
  | none => exact ⟨now, rfl, hnow⟩
  | some t =>
    refine ⟨t, rfl, ?_⟩
    rcases Schema.eq_or_isValid_of_date (Schema.valid_of_optional hread) with hdate | hvalid
    · exact hd t hdate
    · exact hvalid

end StoredPrompt

/-- Whether the times of a record, if they are given as dates, are those of valid dates. -/
def Data.HasValidTimes (data : Data) : Prop :=
  ∀ key ∈ (["createdAt", "updatedAt"] : List Text), ∀ t,
    data.heap.property data.root key = .date (some t) → Instant.isValid t

namespace StoredPrompt

theorem sound_of_ofData {data : Data} {now : Instant} {p : StoredPrompt} (hnow : now.isValid)
    (htimes : data.HasValidTimes) (h : ofData (some now) data = .ok p) : p.Sound := by
  have hread := (Fields.check_record_eq_valid_iff.1 (Checked.orElse_eq_ok_iff.1 h)).2
  rcases read_fields_iff.1 hread with ⟨-, created, updated, hid, hname, -, -, -, hmetadata, hcreated, hupdated, -, -, -,
    hcreatedEq, hupdatedEq⟩
  rcases metadata_of_read hmetadata with ⟨hkind, hunhidden⟩
  constructor
  · exact (Schema.nonEmptyText_eq_valid_iff.1 hid).2
  · exact (Schema.nonEmptyText_eq_valid_iff.1 hname).2
  · exact hkind
  · exact hunhidden
  · rw [hcreatedEq]
    exact time_of_read hnow (htimes "createdAt" (by simp)) hcreated
  · rw [hupdatedEq]
    exact time_of_read hnow (htimes "updatedAt" (by simp)) hupdated

/-! ## Describing -/

/-- The entries of a description, which names the container of the metadata. -/
def entries (p : StoredPrompt) (created updated : Datum) : Mapping Datum :=
  [("id", .text p.id), ("name", .text p.name), ("description", .text p.description), ("template", .text p.template),
    ("variables", textList p.declared), ("metadata", .node p.heap.size), ("createdAt", created),
    ("updatedAt", updated), ("version", .text p.version), ("category", .text p.category), ("tags", textList p.tags)]

section Describe

variable (p : StoredPrompt) (created updated : Datum)

/-- A description adds two containers, of the metadata and of the entries. -/
theorem describe_eq : p.describe created updated =
    ⟨(p.heap.push (.record p.metadata)).push (.record (p.entries created updated)), .node (p.heap.size + 1)⟩ := by
  simp only [describe, Heap.add, Array.size_push]
  rfl

theorem getElem?_describe : (p.describe created updated).heap[p.heap.size]? = some (.record p.metadata) ∧
    (p.describe created updated).heap[p.heap.size + 1]? = some (.record (p.entries created updated)) ∧
    ∀ (id : Nat) (c : Container), p.heap[id]? = some c → (p.describe created updated).heap[id]? = some c := by
  have hsize : (p.heap.add (.record p.metadata)).1.size = p.heap.size + 1 := Array.size_push _
  refine ⟨Heap.getElem?_add_of_some (p.heap.getElem?_add_size _), ?_, ?_⟩
  · rw [← hsize]
    exact Heap.getElem?_add_size _ _
  · intro id c hc
    exact Heap.getElem?_add_of_some (Heap.getElem?_add_of_some hc)

theorem property_describe (key : Text) :
    (p.describe created updated).heap.property (p.describe created updated).root key =
      (Mapping.get? (p.entries created updated) key).getD .undefined := by
  have hroot : (p.describe created updated).root = .node (p.heap.size + 1) := by rw [describe_eq]
  rw [hroot, Heap.property_record (p.getElem?_describe created updated).2.1]

end Describe

theorem listOf_textList (h : Heap) (path : List PathStep) (ts : List Text) :
    (Schema.listOf .text).withDefault [] h path (textList ts) = .valid ts := by
  have hitems : h.items? (textList ts) = some (ts.map fun t => some (.text t)) := by
    simp [textList, Heap.items?]
  rw [Schema.withDefault_of_ne (by simp [textList])]
  apply Schema.listOf_of_items hitems
  intro path t
  rfl

theorem optional_date_isoText (h : Heap) (path : List PathStep) {t : Instant} (ht : t.isValid) :
    Schema.date.optional h path (.text (Instant.isoText t)) = .valid (some t) := by
  apply Schema.optional_of_valid
  · simp
  · simp only [Schema.date, Date.ofText_isoText ht]

/-- A description is read as what it describes, over the heap that holds it, whatever time it is. -/
theorem ofData_describe {p : StoredPrompt} (h : p.Sound) (later : Date) {created updated : Instant}
    (hcreated : p.created = some created) (hupdated : p.updated = some updated) :
    let described := p.describe (.text (Instant.isoText created)) (.text (Instant.isoText updated))
    ofData later described = .ok { p with heap := described.heap } := by
  intro described
  have hproperty : ∀ key, described.heap.property described.root key = _ := p.property_describe _ _
  rcases p.getElem?_describe (.text (Instant.isoText created)) (.text (Instant.isoText updated)) with
    ⟨hmetadata, hentries, -⟩
  have hcreatedValid : created.isValid := by
    rcases h.created with ⟨t, ht, hvalid⟩
    rw [hcreated] at ht
    cases ht
    exact hvalid
  have hupdatedValid : updated.isValid := by
    rcases h.updated with ⟨t, ht, hvalid⟩
    rw [hupdated] at ht
    cases ht
    exact hvalid
  apply Checked.orElse_eq_ok_iff.2
  apply Fields.check_record_eq_valid_iff.2
  constructor
  · have hroot : described.root = .node (p.heap.size + 1) := by
      simp only [described, describe_eq]
    rw [hroot, DataKind.ofDatum, hentries]
    rfl
  · apply read_fields_iff.2
    refine ⟨rfl, some created, some updated, ?_⟩
    simp only [hproperty]
    refine ⟨?_, ?_, rfl, rfl, ?_, ?_, ?_, ?_, rfl, rfl, ?_, hcreated, hupdated⟩
    · exact Schema.nonEmptyText_eq_valid_iff.2 ⟨rfl, h.id⟩
    · exact Schema.nonEmptyText_eq_valid_iff.2 ⟨rfl, h.name⟩
    · exact listOf_textList _ _ _
    · -- the hidden key was dropped when the prompt was read, so nothing is dropped now
      show Schema.anyRecord.withDefault [] described.heap _ (.node p.heap.size) = _
      rw [Schema.withDefault_of_ne (by simp)]
      apply Schema.anyRecord_eq_valid_iff.2
      simp only [DataKind.ofDatum, Heap.properties, described, hmetadata]
      refine ⟨h.kind, List.filter_eq_self.2 ?_⟩
      intro e he
      exact bne_iff_ne.2 (h.unhidden e he)
    · exact optional_date_isoText _ _ hcreatedValid
    · exact optional_date_isoText _ _ hupdatedValid
    · exact listOf_textList _ _ _

end StoredPrompt

/-- Stored prompts survive.

Whatever data a stored prompt is read from, it can be described, and its description is read as the same prompt at any
later time: in all its fields, both times to the millisecond, with the metadata over a heap that holds all that the old
one held. The present and the dates among the data are valid dates, which may lie in any year that such dates have. -/
theorem stored_prompts_survive {data : Data} {now : Instant} {p : StoredPrompt} (hnow : now.isValid)
    (htimes : data.HasValidTimes) (h : StoredPrompt.ofData (some now) data = .ok p) (later : Date) :
    ∃ described, p.toData = .ok described ∧
      StoredPrompt.ofData later described = .ok { p with heap := described.heap } ∧
      ∀ (id : Nat) (c : Container), p.heap[id]? = some c → described.heap[id]? = some c := by
  have hsound := StoredPrompt.sound_of_ofData hnow htimes h
  rcases hsound.created with ⟨created, hcreated, -⟩
  rcases hsound.updated with ⟨updated, hupdated, -⟩
  refine ⟨p.describe (.text (Instant.isoText created)) (.text (Instant.isoText updated)), ?_, ?_, ?_⟩
  · simp only [StoredPrompt.toData, hcreated, hupdated, StoredPrompt.timeText]
    rfl
  · exact StoredPrompt.ofData_describe hsound later hcreated hupdated
  · exact (p.getElem?_describe _ _).2.2

/-- A stored prompt with a hidden key in its metadata, a key that no field has, and the first and the last valid date. -/
theorem stored_prompts_survive_extremes :
    let data : Data := ⟨#[.record [("__proto__", .node 0), ("level", .node 2)],
      .record [("id", .text "p"), ("name", .text "P"), ("description", .text []), ("template", .text "{x}"),
        ("metadata", .node 0), ("more", .undefined), ("createdAt", .date (some (-8640000000000000))),
        ("updatedAt", .text "+275760-09-13T00:00:00.000Z")], .array []], .node 1⟩
    ∃ p described, StoredPrompt.ofData (some 0) data = .ok p ∧
      p.created = some (-8640000000000000) ∧ p.updated = some 8640000000000000 ∧ p.version = "1.0" ∧
      p.toData = .ok described ∧ StoredPrompt.ofData (some 1) described = .ok { p with heap := described.heap } := by
  intro data
  have hread : (StoredPrompt.ofData (some 0) data).toOption.map (fun p => (p.created, p.updated, p.version)) =
      some (some (-8640000000000000), some 8640000000000000, Text.ofString "1.0") := by
    decide +kernel
  have htimes : data.HasValidTimes := by
    intro key hkey t ht
    simp only [List.mem_cons, List.not_mem_nil, or_false] at hkey
    rcases hkey with rfl | rfl
    · have hcreated : data.heap.property data.root "createdAt" = .date (some (-8640000000000000)) := rfl
      cases hcreated.symm.trans ht
      decide
    · have hupdated : data.heap.property data.root "updatedAt" = .text "+275760-09-13T00:00:00.000Z" := rfl
      cases hupdated.symm.trans ht
  cases hp : StoredPrompt.ofData (some 0) data with
  | error e =>
    rw [hp] at hread
    cases hread
  | ok p =>
    rw [hp] at hread
    have hfields := Option.some.inj hread
    rcases stored_prompts_survive (by decide) htimes hp (some 1) with ⟨described, hdescribed, hagain, -⟩
    exact ⟨p, described, rfl, congrArg Prod.fst hfields, congrArg (fun f => f.2.1) hfields,
      congrArg (fun f => f.2.2) hfields, hdescribed, hagain⟩

end BraceTemplate
