import BraceTemplate.EngineConfig
import BraceTemplate.Proofs.Forms

/-!
# Loading a configuration

A configuration is loaded from exactly the data that describe one, and it is the one that they describe. What is loaded
can be written as data and loaded again. Data that are refused are refused with the issues of the schema: one at least,
one at or above the place of every field that is wrong, missing or unknown, and none at a field that is right.

* `EngineConfig.check_eq_valid_iff` — which data are read, and into what;
* `EngineConfig.load_toValue` — what was loaded is loaded again;
* `EngineConfig.loads_exactly_the_valid` — all of it.
-/

namespace BraceTemplate

/-- The datum at a path of keys. -/
def Data.at (data : Data) (keys : List Text) : Datum :=
  keys.foldl data.heap.property data.root

/-- An object with these keys and no others. -/
def Heap.IsObjectOf (h : Heap) (keys : List Text) (d : Datum) : Prop :=
  h.IsObject d ∧ ∀ key, key ∈ (h.properties d).keys ↔ key ∈ keys

theorem Heap.mem_keys_of_property_ne {h : Heap} {d : Datum} {key : Text} (hne : h.property d key ≠ .undefined) :
    key ∈ (h.properties d).keys := by
  by_contra hmissing
  rw [property, Mapping.get?_eq_none_iff.2 hmissing] at hne
  exact hne rfl

theorem Form.Fits.ne_undefined {h : Heap} {form : Form} {d : Datum} (hfits : form.Fits h d) : d ≠ .undefined := by
  rintro rfl
  have hadmits := hfits.admits
  cases form with
  | bool => exact nomatch hadmits
  | text => exact nomatch hadmits
  | positive => exact nomatch hadmits
  | record fields => exact nomatch hadmits

namespace EngineConfig

/-- What a configuration looks like as data. -/
def form : Form :=
  .record [("cache", .record [("enabled", .bool), ("maxEntries", .positive)]),
    ("functions", .record [("builtins", .bool), ("listBullet", .text), ("truncateSuffix", .text)])]

/-- Data that are a configuration: objects with exactly its keys, that hold what it holds. -/
structure Describes (data : Data) (c : EngineConfig) : Prop where
  object : data.heap.IsObjectOf ["cache", "functions"] data.root
  cache : data.heap.IsObjectOf ["enabled", "maxEntries"] (data.at ["cache"])
  enabled : data.at ["cache", "enabled"] = .value (.bool c.cache.enabled)
  maxEntries : ∃ n, data.at ["cache", "maxEntries"] = .value (.number n) ∧ n.toInt? = some (c.cache.maxEntries : Int)
  functions : data.heap.IsObjectOf ["builtins", "listBullet", "truncateSuffix"] (data.at ["functions"])
  builtins : data.at ["functions", "builtins"] = .value (.bool c.functions.builtins)
  listBullet : data.at ["functions", "listBullet"] = .text c.functions.style.listBullet
  truncateSuffix : data.at ["functions", "truncateSuffix"] = .text c.functions.style.truncateSuffix

end EngineConfig

/-! ## What is read -/

/-- A record is read from an object with exactly its keys whose fields can be read. -/
theorem Fields.Follow.exactRecord_eq_valid_iff {α : Type} {f : Fields α} {fields : List (Text × Form)}
    (hf : f.Follow fields) (hthen : ("then" : Text) ∉ Mapping.keys fields) {h : Heap} {path : List PathStep}
    {d : Datum} {a : α} : f.exactRecord h path d = .valid a ↔
      h.IsObjectOf (Mapping.keys fields) d ∧ f.read h path d = .valid a := by
  rw [Fields.exactRecord_eq_valid_iff, hf.keys_eq]
  constructor
  · rintro ⟨hkind, hkeys, hread⟩
    refine ⟨⟨DataKind.isObject_of_record hkind, fun key => ⟨hkeys key, ?_⟩⟩, hread⟩
    intro hkey
    obtain ⟨e, he, rfl⟩ := List.mem_map.1 hkey
    have hfits := (hf.valid_iff h path d).1 ⟨a, hread⟩ e he
    exact Heap.mem_keys_of_property_ne hfits.ne_undefined
  · rintro ⟨⟨hobject, hkeys⟩, hread⟩
    have hkind := DataKind.record_of_isObject hobject fun hkey => hthen ((hkeys _).1 hkey)
    exact ⟨hkind, fun key hkey => (hkeys key).1 hkey, hread⟩

section Reading

variable {h : Heap} {path : List PathStep} {d : Datum}

theorem Fields.read_map_eq_valid_iff {α β : Type} {g : α → β} {f : Fields α} {b : β} :
    (g <$> f).read h path d = .valid b ↔ ∃ a, f.read h path d = .valid a ∧ g a = b := by
  rw [read_map, Checked.ap_eq_valid_iff]
  constructor
  · rintro ⟨_, a, ⟨⟩, ha, hb⟩
    exact ⟨a, ha, hb⟩
  · rintro ⟨a, ha, hb⟩
    exact ⟨g, a, rfl, ha, hb⟩

theorem Fields.read_seq_eq_valid_iff {α β : Type} {f : Fields (α → β)} {c : Fields α} {b : β} :
    (f <*> c).read h path d = .valid b ↔
      ∃ g a, f.read h path d = .valid g ∧ c.read h path d = .valid a ∧ g a = b := by
  rw [read_seq, Checked.ap_eq_valid_iff]

namespace CacheSettings

theorem follow_fields : fields.Follow [("enabled", .bool), ("maxEntries", .positive)] :=
  ((Fields.follow_field Schema.follows_bool "enabled").map mk).seq
    (Fields.follow_field Schema.follows_positive "maxEntries")

theorem eq_valid_iff {c : CacheSettings} :
    fields.exactRecord h path d = .valid c ↔ h.IsObjectOf ["enabled", "maxEntries"] d ∧
      h.property d "enabled" = .value (.bool c.enabled) ∧
      ∃ n, h.property d "maxEntries" = .value (.number n) ∧ n.toInt? = some (c.maxEntries : Int) := by
  rw [follow_fields.exactRecord_eq_valid_iff (by decide)]
  apply and_congr_right
  intro _
  rw [fields, Fields.read_seq_eq_valid_iff]
  simp only [Fields.read_map_eq_valid_iff]
  constructor
  · rintro ⟨g, k, ⟨b, hb, rfl⟩, hk, rfl⟩
    exact ⟨Schema.bool_eq_valid_iff.1 hb, Schema.positive_eq_valid_iff.1 hk⟩
  · rintro ⟨hb, hk⟩
    exact ⟨_, c.maxEntries, ⟨c.enabled, Schema.bool_eq_valid_iff.2 hb, rfl⟩, Schema.positive_eq_valid_iff.2 hk, rfl⟩

end CacheSettings

namespace FunctionSettings

theorem follow_fields :
    fields.Follow [("builtins", .bool), ("listBullet", .text), ("truncateSuffix", .text)] :=
  (((Fields.follow_field Schema.follows_bool "builtins").map _).seq
    (Fields.follow_field Schema.follows_text "listBullet")).seq
    (Fields.follow_field Schema.follows_text "truncateSuffix")

theorem eq_valid_iff {c : FunctionSettings} :
    fields.exactRecord h path d = .valid c ↔ h.IsObjectOf ["builtins", "listBullet", "truncateSuffix"] d ∧
      h.property d "builtins" = .value (.bool c.builtins) ∧
      h.property d "listBullet" = .text c.style.listBullet ∧
      h.property d "truncateSuffix" = .text c.style.truncateSuffix := by
  rw [follow_fields.exactRecord_eq_valid_iff (by decide)]
  apply and_congr_right
  intro _
  rw [fields, Fields.read_seq_eq_valid_iff]
  simp only [Fields.read_seq_eq_valid_iff, Fields.read_map_eq_valid_iff]
  constructor
  · rintro ⟨_, suffix, ⟨_, bullet, ⟨b, hb, rfl⟩, hbullet, rfl⟩, hsuffix, rfl⟩
    exact ⟨Schema.bool_eq_valid_iff.1 hb, Schema.text_eq_valid_iff.1 hbullet, Schema.text_eq_valid_iff.1 hsuffix⟩
  · rintro ⟨hb, hbullet, hsuffix⟩
    refine ⟨_, c.style.truncateSuffix, ⟨_, c.style.listBullet, ⟨c.builtins, ?_, rfl⟩, ?_, rfl⟩, ?_, rfl⟩
    · exact Schema.bool_eq_valid_iff.2 hb
    · exact Schema.text_eq_valid_iff.2 hbullet
    · exact Schema.text_eq_valid_iff.2 hsuffix

end FunctionSettings

end Reading

namespace EngineConfig

theorem follow_fields : (mk <$> Fields.field "cache" CacheSettings.fields.exactRecord
    <*> .field "functions" FunctionSettings.fields.exactRecord).Follow
      [("cache", .record [("enabled", .bool), ("maxEntries", .positive)]),
        ("functions", .record [("builtins", .bool), ("listBullet", .text), ("truncateSuffix", .text)])] :=
  ((Fields.follow_field (CacheSettings.follow_fields.exactRecord (by decide) (by decide)) "cache").map mk).seq
    (Fields.follow_field (FunctionSettings.follow_fields.exactRecord (by decide) (by decide)) "functions")

theorem follows_form : schema.Follows form :=
  follow_fields.exactRecord (by decide) (by decide)

/-- A configuration is read from exactly the data that describe it. -/
theorem check_eq_valid_iff {data : Data} {c : EngineConfig} : schema.check data = .valid c ↔ Describes data c := by
  rw [Schema.check, schema, follow_fields.exactRecord_eq_valid_iff (by decide), Fields.read_seq_eq_valid_iff]
  simp only [Fields.read_map_eq_valid_iff]
  constructor
  · rintro ⟨hobject, _, functions, ⟨cache, hcache, rfl⟩, hfunctions, rfl⟩
    obtain ⟨hcacheObject, henabled, hentries⟩ := CacheSettings.eq_valid_iff.1 hcache
    obtain ⟨hfunctionsObject, hbuiltins, hbullet, hsuffix⟩ := FunctionSettings.eq_valid_iff.1 hfunctions
    exact ⟨hobject, hcacheObject, henabled, hentries, hfunctionsObject, hbuiltins, hbullet, hsuffix⟩
  · intro h
    refine ⟨h.object, _, c.functions, ⟨c.cache, ?_, rfl⟩, ?_, rfl⟩
    · exact CacheSettings.eq_valid_iff.2 ⟨h.cache, h.enabled, h.maxEntries⟩
    · exact FunctionSettings.eq_valid_iff.2 ⟨h.functions, h.builtins, h.listBullet, h.truncateSuffix⟩

/-! ## Loading -/

theorem load_eq_ok_iff {data : Data} {c : EngineConfig} : load data = .ok c ↔ schema.check data = .valid c :=
  Checked.orElse_eq_ok_iff

theorem load_eq_error_iff {data : Data} {e : EngineConfigError} :
    load data = .error e ↔ ∃ issues, schema.check data = .invalid issues ∧ e = .invalid issues := by
  rw [load]
  cases schema.check data with
  | valid c => simp [Checked.orElse]
  | invalid issues => simp [Checked.orElse, eq_comm]

/-- A configuration describes itself, if its size is a double. -/
theorem describes_toValue {c : EngineConfig}
    (h : (Number.ofNat c.cache.maxEntries).toInt? = some (c.cache.maxEntries : Int)) :
    Describes (.ofValue c.toValue) c where
  object := ⟨.mapping _, fun _ => Iff.rfl⟩
  cache := ⟨.mapping _, fun _ => Iff.rfl⟩
  enabled := rfl
  maxEntries := ⟨_, rfl, h⟩
  functions := ⟨.mapping _, fun _ => Iff.rfl⟩
  builtins := rfl
  listBullet := rfl
  truncateSuffix := rfl

/-- What was loaded is loaded again. -/
theorem load_toValue {data : Data} {c : EngineConfig} (hload : load data = .ok c)
    (hdouble : ∀ n, data.at ["cache", "maxEntries"] = .value (.number n) → n.IsDouble) :
    load (.ofValue c.toValue) = .ok c := by
  obtain ⟨n, hn, hint⟩ := (check_eq_valid_iff.1 (load_eq_ok_iff.1 hload)).maxEntries
  have hagain : (Number.ofNat c.cache.maxEntries).toInt? = some (c.cache.maxEntries : Int) :=
    Number.toInt?_ofNat (hdouble n hn) hint
  exact load_eq_ok_iff.2 (check_eq_valid_iff.2 (describes_toValue hagain))

/-- Where the issues of data that are no configuration are. -/
theorem place_of_issues {data : Data} {issues : List Issue} (h : schema.check data = .invalid issues) :
    issues ≠ [] ∧
    (∀ keys, form.Amiss data.heap data.root keys → ∃ i ∈ issues, i.path <+: keys.map .key) ∧
    (∀ i ∈ issues, ∃ keys, i.path = keys.map .key ∧ form.Faulty data.heap data.root keys) ∧
    ∀ keys, form.Right data.heap data.root keys → ∀ i ∈ issues, ¬ keys.map .key <+: i.path := by
  have hissues : (schema data.heap [] data.root).issues = issues := congrArg Checked.issues h
  have hsound : ∀ i ∈ issues, ∃ keys, i.path = keys.map .key ∧ form.Faulty data.heap data.root keys := by
    rw [← hissues]
    exact follows_form.sound data.heap [] data.root
  refine ⟨?_, ?_, hsound, ?_⟩
  · rintro rfl
    exact follows_form.isProper data.heap [] data.root h
  · rw [← hissues]
    exact follows_form.complete data.heap [] data.root
  · intro right hright i hi hbelow
    obtain ⟨keys, hpath, hfaulty⟩ := hsound i hi
    rw [hpath] at hbelow
    have hinjective : Function.Injective PathStep.key := fun _ _ heq => PathStep.key.inj heq
    obtain ⟨more, rfl⟩ := (List.prefix_map_iff_of_injective hinjective).1 hbelow
    exact hright.not_faulty more hfaulty

/-- Exactly the data that describe a configuration are loaded, as the configuration that they describe, which is loaded
again from its own description. All other data are refused with the issues that checking them gives: one at least, one
at or above the place of every field that is wrong, missing or unknown, none but at places that are at fault, and so
none at a field that is right or in it. -/
theorem loads_exactly_the_valid (data : Data) :
    (∀ c, schema.check data = .valid c ↔ Describes data c) ∧
    (∀ c, load data = .ok c ↔ schema.check data = .valid c) ∧
    (∀ c, load data = .ok c → (∀ n, data.at ["cache", "maxEntries"] = .value (.number n) → n.IsDouble) →
      load (.ofValue c.toValue) = .ok c) ∧
    (∀ e, load data = .error e ↔ ∃ issues, schema.check data = .invalid issues ∧ e = .invalid issues) ∧
    ∀ issues, schema.check data = .invalid issues → issues ≠ [] ∧
      (∀ keys, form.Amiss data.heap data.root keys → ∃ i ∈ issues, i.path <+: keys.map .key) ∧
      (∀ i ∈ issues, ∃ keys, i.path = keys.map .key ∧ form.Faulty data.heap data.root keys) ∧
      ∀ keys, form.Right data.heap data.root keys → ∀ i ∈ issues, ¬ keys.map .key <+: i.path := by
  refine ⟨fun c => check_eq_valid_iff, fun c => load_eq_ok_iff, ?_, fun e => load_eq_error_iff, ?_⟩
  · intro c hload hdouble
    exact load_toValue hload hdouble
  · intro issues hinvalid
    exact place_of_issues hinvalid

end EngineConfig

end BraceTemplate
