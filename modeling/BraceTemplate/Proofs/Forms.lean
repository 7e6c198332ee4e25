import BraceTemplate.Proofs.Rounding
import BraceTemplate.Proofs.Schemas
import Mathlib.Tactic.ByContra

/-!
# Forms of data

A form says what data have to look like: which kind of scalar, or an object with which fields and no others. A schema
follows a form if it reads exactly the data that fit, and if its issues are where the data are at fault: a field that
is wrong, missing or unknown has an issue at its place or above it, and a field that is right has none.

* `Schema.follows_bool`, `Schema.follows_text`, `Schema.follows_positive` — scalars;
* `Fields.follow_field`, `Fields.Follow.map`, `Fields.Follow.seq`, `Fields.Follow.exactRecord` — schemas that are put
  together follow the form put together;
* `Form.Right.not_faulty` — a field that is right is nowhere at fault.
-/

namespace BraceTemplate

variable {α β : Type}

/-- What data have to look like. -/
inductive Form where
  | bool
  | text
  /-- A whole number of at least one. -/
  | positive
  /-- An object with these fields and no others. -/
  | record (fields : List (Text × Form))

/-- An object, as a template value or in the heap. -/
inductive Heap.IsObject (h : Heap) : Datum → Prop
  | mapping (entries : List (Text × Value)) : IsObject h (.value (.mapping entries))
  | record {id : Nat} {entries : Mapping Datum} : h[id]? = some (.record entries) → IsObject h (.node id)

namespace Form

/-- A datum of the kind that a form asks for. An object may still have the wrong fields. -/
def Admits (h : Heap) : Form → Datum → Prop
  | bool, d => ∃ b, d = .value (.bool b)
  | text, d => ∃ t, d = .text t
  | positive, d => ∃ n k, d = .value (.number n) ∧ n.toInt? = some k ∧ 1 ≤ k
  | record _, d => h.IsObject d

/-- Data that are as a form asks. -/
inductive Fits (h : Heap) : Form → Datum → Prop
  | scalar {form : Form} {d : Datum} : (∀ fields, form ≠ record fields) → form.Admits h d → Fits h form d
  | record {fields : List (Text × Form)} {d : Datum} : h.IsObject d →
      (∀ key ∈ (h.properties d).keys, key ∈ Mapping.keys fields) →
      (∀ e ∈ fields, Fits h e.2 (h.property d e.1)) → Fits h (.record fields) d

/-- The path of a field that is not as a form asks: one that is wrong or missing, or one that is unknown. -/
inductive Amiss (h : Heap) : Form → Datum → List Text → Prop
  | wrong {form : Form} {d : Datum} : ¬ form.Admits h d → Amiss h form d []
  | unknown {fields : List (Text × Form)} {d : Datum} {key : Text} : key ∈ (h.properties d).keys →
      key ∉ Mapping.keys fields → Amiss h (.record fields) d [key]
  | inside {fields : List (Text × Form)} {form : Form} {d : Datum} {key : Text} {keys : List Text} :
      Mapping.get? fields key = some form → Amiss h form (h.property d key) keys →
      Amiss h (.record fields) d (key :: keys)

/-- The path of a place that is at fault: a field that is wrong or missing, or an object with an unknown field. -/
inductive Faulty (h : Heap) : Form → Datum → List Text → Prop
  | wrong {form : Form} {d : Datum} : ¬ form.Admits h d → Faulty h form d []
  | unknown {fields : List (Text × Form)} {d : Datum} {key : Text} : key ∈ (h.properties d).keys →
      key ∉ Mapping.keys fields → Faulty h (.record fields) d []
  | inside {fields : List (Text × Form)} {form : Form} {d : Datum} {key : Text} {keys : List Text} :
      Mapping.get? fields key = some form → Faulty h form (h.property d key) keys →
      Faulty h (.record fields) d (key :: keys)

/-- The path of a field that a form asks for and that is as it asks. -/
inductive Right (h : Heap) : Form → Datum → List Text → Prop
  | here {form : Form} {d : Datum} : form.Fits h d → Right h form d []
  | inside {fields : List (Text × Form)} {form : Form} {d : Datum} {key : Text} {keys : List Text} :
      Mapping.get? fields key = some form → Right h form (h.property d key) keys →
      Right h (.record fields) d (key :: keys)

variable {h : Heap} {form : Form} {d : Datum} {keys : List Text}

theorem Fits.admits (hfits : form.Fits h d) : form.Admits h d := by
  cases hfits with
  | scalar _ hadmits => exact hadmits
  | record hobject _ _ => exact hobject

/-- What fits is nowhere at fault. -/
theorem Fits.not_faulty (hfits : form.Fits h d) : ¬ form.Faulty h d keys := by
  intro hfaulty
  induction hfaulty with
  | wrong hwrong => exact hwrong hfits.admits
  | unknown hkey hunknown =>
    cases hfits with
    | scalar hscalar _ => exact hscalar _ rfl
    | record _ hkeys _ => exact hunknown (hkeys _ hkey)
  | inside hform _ ih =>
    cases hfits with
    | scalar hscalar _ => exact hscalar _ rfl
    | record _ _ hfields => exact ih (hfields _ (Mapping.mem_of_get? hform))

/-- No place at a field that is right, or in it, is at fault. -/
theorem Right.not_faulty (hright : form.Right h d keys) (rest : List Text) : ¬ form.Faulty h d (keys ++ rest) := by
  induction hright with
  | here hfits => exact hfits.not_faulty
  | inside hform _ ih =>
    intro hfaulty
    cases hfaulty with
    | inside hform' hfaulty =>
      rw [hform] at hform'
      obtain rfl := Option.some.inj hform'
      exact ih hfaulty

end Form

theorem DataKind.isObject_of_record {h : Heap} {d : Datum} (hkind : ofDatum h d = .record) : h.IsObject d := by
  cases d with
  | value v =>
    cases v with
    | mapping entries => exact .mapping entries
    | number n =>
      rw [ofDatum] at hkind
      split at hkind <;> cases hkind
    | _ => cases hkind
  | node id =>
    rw [ofDatum] at hkind
    split at hkind
    · cases hkind
    · rename_i hc
      exact .record hc
    · cases hkind
    · cases hkind
  | _ => cases hkind

/-- An object without a function to await it counts as a record. -/
theorem DataKind.record_of_isObject {h : Heap} {d : Datum} (hobject : h.IsObject d)
    (hthen : ("then" : Text) ∉ (h.properties d).keys) : ofDatum h d = .record := by
  cases hobject with
  | mapping entries => rfl
  | @record id entries hc =>
    rw [Heap.properties_record hc] at hthen
    have hget : Mapping.get? entries "then" = none := Mapping.get?_eq_none_iff.2 hthen
    simp only [ofDatum, hc, ofRecord, hget, Bool.false_and, Bool.false_eq_true, if_false]

/-! ## Issues -/

namespace Checked

/-- What is wrong, if anything. -/
def issues : Checked α → List Issue
  | valid _ => []
  | invalid issues => issues

theorem issues_ap (f : Checked (α → β)) (c : Checked α) : (ap f c).issues = f.issues ++ c.issues := by
  cases f with
  | valid g => cases c <;> rfl
  | invalid first =>
    cases c with
    | valid a => exact (List.append_nil first).symm
    | invalid second => rfl

/-- Whatever is not valid has an issue. -/
def IsProper (c : Checked α) : Prop :=
  c ≠ .invalid []

theorem isProper_valid (a : α) : (valid a).IsProper := by
  rintro ⟨⟩

theorem isProper_ap {f : Checked (α → β)} {c : Checked α} (hf : f.IsProper) (hc : c.IsProper) :
    (ap f c).IsProper := by
  cases f with
  | valid g =>
    cases c with
    | valid a => exact isProper_valid _
    | invalid second =>
      rintro ⟨⟩
      exact hc rfl
  | invalid first =>
    have hne : first ≠ [] := fun hnil => hf (congrArg invalid hnil)
    cases c with
    | valid a =>
      rintro ⟨⟩
      exact hf rfl
    | invalid second => simp [IsProper, ap, hne]

theorem isProper_withIssues {c : Checked α} (hc : c.IsProper) (more : List Issue) :
    (c.withIssues more).IsProper := by
  cases c with
  | valid a =>
    rw [withIssues]
    split
    · exact isProper_valid a
    · rename_i hne
      rintro ⟨⟩
      exact hne rfl
  | invalid first =>
    have hne : first ≠ [] := fun hnil => hc (congrArg invalid hnil)
    simp [IsProper, withIssues, hne]

theorem issues_withIssues (c : Checked α) (more : List Issue) : (c.withIssues more).issues = c.issues ++ more := by
  cases c with
  | valid a =>
    rw [withIssues]
    split
    · rename_i hempty
      exact (List.isEmpty_iff.1 hempty).symm
    · rfl
  | invalid first => rfl

theorem withIssues_eq_valid_iff {c : Checked α} {more : List Issue} {a : α} :
    c.withIssues more = .valid a ↔ c = .valid a ∧ more = [] := by
  cases c with
  | valid b =>
    rw [withIssues]
    split
    · rename_i hempty
      simp [List.isEmpty_iff.1 hempty]
    · rename_i hne
      simp [List.isEmpty_iff.not.1 hne]
  | invalid first => simp [withIssues]

end Checked

/-- The place of a field inside the data at a place. -/
abbrev fieldPath (path : List PathStep) (keys : List Text) : List PathStep :=
  path ++ keys.map .key

/-- A schema reads what fits a form. It has an issue at or above the place of everything amiss, and only at places that
are at fault. -/
structure Schema.Follows (s : Schema α) (form : Form) : Prop where
  isProper : ∀ h path d, (s h path d).IsProper
  valid_iff : ∀ h path d, (∃ a, s h path d = .valid a) ↔ form.Fits h d
  complete : ∀ h path d keys, form.Amiss h d keys →
    ∃ i ∈ (s h path d).issues, i.path <+: fieldPath path keys
  sound : ∀ h path d, ∀ i ∈ (s h path d).issues, ∃ keys, i.path = fieldPath path keys ∧
    form.Faulty h d keys

/-- The same for the fields of a record. -/
structure Fields.Follow (f : Fields α) (fields : List (Text × Form)) : Prop where
  isProper : ∀ h path d, (f.read h path d).IsProper
  keys_eq : f.keys = Mapping.keys fields
  valid_iff : ∀ h path d, (∃ a, f.read h path d = .valid a) ↔ ∀ e ∈ fields, e.2.Fits h (h.property d e.1)
  complete : ∀ h path d keys, ∀ e ∈ fields, e.2.Amiss h (h.property d e.1) keys →
    ∃ i ∈ (f.read h path d).issues, i.path <+: fieldPath path (e.1 :: keys)
  sound : ∀ h path d, ∀ i ∈ (f.read h path d).issues, ∃ e ∈ fields, ∃ keys,
    i.path = fieldPath path (e.1 :: keys) ∧ e.2.Faulty h (h.property d e.1) keys

namespace Schema

/-- A schema for a scalar has its issues, one at least, at the place of a datum that it does not read. -/
theorem follows_of_scalar {s : Schema α} {form : Form} (hscalar : ∀ fields, form ≠ .record fields)
    (hvalid : ∀ h path d, form.Admits h d → ∃ a, s h path d = .valid a)
    (hissues : ∀ h path d, ¬ form.Admits h d →
      ∃ first more, s h path d = .invalid (first :: more) ∧ ∀ i ∈ first :: more, i.path = path) :
    s.Follows form where
  isProper h path d := by
    by_cases hadmits : form.Admits h d
    · obtain ⟨a, hread⟩ := hvalid h path d hadmits
      rw [hread]
      exact Checked.isProper_valid a
    · obtain ⟨first, more, hinvalid, -⟩ := hissues h path d hadmits
      rw [hinvalid]
      rintro ⟨⟩
  valid_iff h path d := by
    constructor
    · rintro ⟨a, hread⟩
      by_cases hadmits : form.Admits h d
      · exact .scalar hscalar hadmits
      · obtain ⟨first, more, hinvalid, -⟩ := hissues h path d hadmits
        rw [hread] at hinvalid
        exact nomatch hinvalid
    · intro hfits
      exact hvalid h path d hfits.admits
  complete h path d keys hamiss := by
    have hadmits : ¬ form.Admits h d := by
      cases hamiss with
      | wrong hwrong => exact hwrong
      | unknown => exact absurd rfl (hscalar _)
      | inside => exact absurd rfl (hscalar _)
    obtain ⟨first, more, hinvalid, hpath⟩ := hissues h path d hadmits
    rw [hinvalid]
    refine ⟨first, List.mem_cons_self, ?_⟩
    rw [hpath first List.mem_cons_self]
    exact List.prefix_append path _
  sound h path d i hi := by
    by_cases hadmits : form.Admits h d
    · obtain ⟨a, hread⟩ := hvalid h path d hadmits
      rw [hread] at hi
      exact nomatch hi
    · obtain ⟨first, more, hinvalid, hpath⟩ := hissues h path d hadmits
      rw [hinvalid] at hi
      exact ⟨[], (hpath i hi).trans (List.append_nil path).symm, .wrong hadmits⟩

theorem bool_eq_valid_iff {h : Heap} {path : List PathStep} {d : Datum} {b : Bool} :
    bool h path d = .valid b ↔ d = .value (.bool b) := by
  unfold bool
  constructor
  · intro hread
    split at hread
    · cases hread
      rfl
    · cases hread
  · rintro rfl
    rfl

theorem follows_bool : bool.Follows .bool := by
  apply follows_of_scalar (by simp)
  · rintro h path d ⟨b, rfl⟩
    exact ⟨b, rfl⟩
  · intro h path d hadmits
    refine ⟨⟨path, .wrongKind (.kind .boolean) (DataKind.ofDatum h d)⟩, [], ?_, List.forall_mem_singleton.2 rfl⟩
    unfold bool
    split
    · exact absurd ⟨_, rfl⟩ hadmits
    · rfl

theorem follows_text : text.Follows .text := by
  apply follows_of_scalar (by simp)
  · rintro h path d ⟨t, rfl⟩
    exact ⟨t, rfl⟩
  · intro h path d hadmits
    refine ⟨⟨path, .wrongKind (.kind .text) (DataKind.ofDatum h d)⟩, [], ?_, List.forall_mem_singleton.2 rfl⟩
    unfold text
    split
    · exact absurd ⟨_, rfl⟩ hadmits
    · rfl

theorem positive_eq_valid_iff {h : Heap} {path : List PathStep} {d : Datum} {k : { n : Nat // 0 < n }} :
    positive h path d = .valid k ↔ ∃ n, d = .value (.number n) ∧ n.toInt? = some (k : Int) := by
  obtain ⟨k, hk⟩ := k
  constructor
  · intro hread
    unfold positive at hread
    split at hread
    · rename_i n _
      split at hread
      · rename_i m hint
        cases hread
        exact ⟨n, rfl, hint⟩
      · exact nomatch hread
    · exact nomatch hread
  · rintro ⟨n, rfl, hint⟩
    obtain ⟨m, rfl⟩ := Nat.exists_eq_succ_of_ne_zero (Nat.ne_of_gt hk)
    cases n with
    | nan => exact nomatch hint
    | infinite _ => exact nomatch hint
    | finite negative mantissa shift =>
      have hkind : DataKind.ofDatum h (.value (.number (.finite negative mantissa shift))) = .number := rfl
      have hsucc : Number.toInt? (.finite negative mantissa shift) = some (.ofNat (m + 1)) := hint
      unfold positive
      simp only [hkind, hsucc]

theorem follows_positive : positive.Follows .positive := by
  apply follows_of_scalar (by simp)
  · rintro h path d ⟨n, k, rfl, hint, hk⟩
    have hpos : 0 < k.toNat := by omega
    have hcast : ((k.toNat : Nat) : Int) = k := by omega
    refine ⟨⟨k.toNat, hpos⟩, positive_eq_valid_iff.2 ⟨n, rfl, ?_⟩⟩
    rw [hint, hcast]
  · intro h path d hadmits
    unfold positive
    split
    · rename_i n _
      split
      · rename_i m hint
        exact absurd ⟨n, _, rfl, hint, Int.le_add_of_nonneg_left (Int.natCast_nonneg m)⟩ hadmits
      · rename_i hint
        -- a whole number that is not accepted is below one, so there is an issue for every number
        cases hwhole : n.toInt? with
        | none =>
          refine ⟨⟨path, .fraction⟩, _, rfl, ?_⟩
          split <;> simp
        | some k =>
          have hbelow : n.ltNat 1 := by
            apply Number.ltNat_one_of_toInt? hwhole
            by_contra hk
            exact hadmits ⟨n, k, rfl, hwhole, by omega⟩
          rw [if_pos hbelow]
          exact ⟨_, [], rfl, List.forall_mem_singleton.2 rfl⟩
    · exact ⟨_, [], rfl, List.forall_mem_singleton.2 rfl⟩

end Schema

namespace Fields

theorem follow_field {s : Schema α} {form : Form} (hs : s.Follows form) (key : Text) :
    (field key s).Follow [(key, form)] where
  isProper h path d := hs.isProper h _ _
  keys_eq := rfl
  valid_iff h path d := by
    rw [List.forall_mem_singleton]
    exact hs.valid_iff h _ _
  complete h path d keys := by
    rw [List.forall_mem_singleton]
    intro hamiss
    obtain ⟨i, hi, hpath⟩ := hs.complete h (path ++ [.key key]) _ keys hamiss
    refine ⟨i, hi, ?_⟩
    rwa [fieldPath, List.append_assoc] at hpath
  sound h path d i hi := by
    have hi : i ∈ (s h (path ++ [.key key]) (h.property d key)).issues := hi
    obtain ⟨keys, hpath, hfaulty⟩ := hs.sound h _ _ i hi
    refine ⟨(key, form), List.mem_singleton_self _, keys, ?_, hfaulty⟩
    rwa [fieldPath, List.append_assoc] at hpath

theorem Follow.map {f : Fields α} {fields : List (Text × Form)} (hf : f.Follow fields) (g : α → β) :
    (g <$> f).Follow fields where
  isProper h path d := Checked.isProper_ap (Checked.isProper_valid g) (hf.isProper h path d)
  keys_eq := (List.nil_append f.keys).trans hf.keys_eq
  valid_iff h path d := by
    rw [← hf.valid_iff h path d]
    constructor
    · rintro ⟨b, hread⟩
      obtain ⟨_, a, -, ha, -⟩ := Checked.ap_eq_valid_iff.1 hread
      exact ⟨a, ha⟩
    · rintro ⟨a, ha⟩
      exact ⟨g a, Checked.ap_eq_valid_iff.2 ⟨g, a, rfl, ha, rfl⟩⟩
  complete h path d keys e he hamiss := by
    rw [read_map, Checked.issues_ap]
    exact hf.complete h path d keys e he hamiss
  sound h path d i hi := by
    rw [read_map, Checked.issues_ap] at hi
    exact hf.sound h path d i hi

theorem Follow.seq {f : Fields (α → β)} {c : Fields α} {fields more : List (Text × Form)} (hf : f.Follow fields)
    (hc : c.Follow more) : (f <*> c).Follow (fields ++ more) where
  isProper h path d := Checked.isProper_ap (hf.isProper h path d) (hc.isProper h path d)
  keys_eq := by
    rw [Mapping.keys, List.map_append, ← Mapping.keys, ← Mapping.keys, ← hf.keys_eq, ← hc.keys_eq]
    rfl
  valid_iff h path d := by
    rw [List.forall_mem_append, ← hf.valid_iff h path d, ← hc.valid_iff h path d]
    constructor
    · rintro ⟨b, hread⟩
      obtain ⟨g, a, hg, ha, -⟩ := Checked.ap_eq_valid_iff.1 hread
      exact ⟨⟨g, hg⟩, ⟨a, ha⟩⟩
    · rintro ⟨⟨g, hg⟩, ⟨a, ha⟩⟩
      exact ⟨g a, Checked.ap_eq_valid_iff.2 ⟨g, a, hg, ha, rfl⟩⟩
  complete h path d keys e he hamiss := by
    rw [read_seq, Checked.issues_ap]
    rcases List.mem_append.1 he with he | he
    · obtain ⟨i, hi, hpath⟩ := hf.complete h path d keys e he hamiss
      exact ⟨i, List.mem_append_left _ hi, hpath⟩
    · obtain ⟨i, hi, hpath⟩ := hc.complete h path d keys e he hamiss
      exact ⟨i, List.mem_append_right _ hi, hpath⟩
  sound h path d i hi := by
    rw [read_seq, Checked.issues_ap] at hi
    rcases List.mem_append.1 hi with hi | hi
    · obtain ⟨e, he, hfound⟩ := hf.sound h path d i hi
      exact ⟨e, List.mem_append_left _ he, hfound⟩
    · obtain ⟨e, he, hfound⟩ := hc.sound h path d i hi
      exact ⟨e, List.mem_append_right _ he, hfound⟩

/-- What is said of the unknown keys of a record. -/
def unknownIssues (f : Fields α) (h : Heap) (path : List PathStep) (d : Datum) : List Issue :=
  let others := (h.properties d).keys.filter fun key => !f.keys.contains key
  if others.isEmpty then [] else [⟨path, .unknownKeys others⟩]

theorem unknownIssues_eq_nil_iff {f : Fields α} {h : Heap} {path : List PathStep} {d : Datum} :
    f.unknownIssues h path d = [] ↔ ∀ key ∈ (h.properties d).keys, key ∈ f.keys := by
  simp [unknownIssues]

theorem path_of_mem_unknownIssues {f : Fields α} {h : Heap} {path : List PathStep} {d : Datum} {i : Issue}
    (hi : i ∈ f.unknownIssues h path d) :
    i.path = path ∧ ∃ key ∈ (h.properties d).keys, key ∉ f.keys := by
  constructor
  · simp only [unknownIssues] at hi
    split at hi
    · exact nomatch hi
    · rw [List.mem_singleton.1 hi]
  · by_contra hknown
    push Not at hknown
    rw [unknownIssues_eq_nil_iff.2 hknown] at hi
    exact nomatch hi

theorem exactRecord_of_record {f : Fields α} {h : Heap} {path : List PathStep} {d : Datum}
    (hkind : DataKind.ofDatum h d = .record) :
    f.exactRecord h path d = (f.read h path d).withIssues (f.unknownIssues h path d) :=
  if_pos hkind

theorem exactRecord_eq_valid_iff {f : Fields α} {h : Heap} {path : List PathStep} {d : Datum} {a : α} :
    f.exactRecord h path d = .valid a ↔
      DataKind.ofDatum h d = .record ∧ (∀ key ∈ (h.properties d).keys, key ∈ f.keys) ∧ f.read h path d = .valid a := by
  by_cases hkind : DataKind.ofDatum h d = .record
  · rw [exactRecord_of_record hkind, Checked.withIssues_eq_valid_iff, unknownIssues_eq_nil_iff]
    exact ⟨fun ⟨hread, hkeys⟩ => ⟨hkind, hkeys, hread⟩, fun ⟨_, hkeys, hread⟩ => ⟨hread, hkeys⟩⟩
  · constructor
    · intro hread
      rw [exactRecord, if_neg hkind] at hread
      exact nomatch hread
    · rintro ⟨hrecord, -, -⟩
      exact absurd hrecord hkind

theorem Follow.exactRecord {f : Fields α} {fields : List (Text × Form)} (hf : f.Follow fields)
    (hnodup : (Mapping.keys fields).Nodup) (hthen : ("then" : Text) ∉ Mapping.keys fields) :
    f.exactRecord.Follows (.record fields) where
  isProper h path d := by
    by_cases hkind : DataKind.ofDatum h d = .record
    · rw [exactRecord_of_record hkind]
      exact Checked.isProper_withIssues (hf.isProper h path d) _
    · rw [Fields.exactRecord, if_neg hkind]
      rintro ⟨⟩
  valid_iff h path d := by
    have hread := hf.valid_iff h path d
    simp only [exactRecord_eq_valid_iff, hf.keys_eq]
    constructor
    · rintro ⟨a, hkind, hkeys, ha⟩
      exact .record (DataKind.isObject_of_record hkind) hkeys (hread.1 ⟨a, ha⟩)
    · intro hfits
      cases hfits with
      | scalar hscalar => exact absurd rfl (hscalar _)
      | record hobject hkeys hfields =>
        obtain ⟨a, ha⟩ := hread.2 hfields
        exact ⟨a, DataKind.record_of_isObject hobject fun hkey => hthen (hkeys _ hkey), hkeys, ha⟩
  complete h path d keys hamiss := by
    by_cases hkind : DataKind.ofDatum h d = .record
    · rw [exactRecord_of_record hkind, Checked.issues_withIssues]
      cases hamiss with
      | wrong hwrong => exact absurd (DataKind.isObject_of_record hkind) hwrong
      | @unknown _ _ key hkey hunknown =>
        have hne : f.unknownIssues h path d ≠ [] := by
          intro hnil
          have hknown := unknownIssues_eq_nil_iff.1 hnil key hkey
          rw [hf.keys_eq] at hknown
          exact hunknown hknown
        obtain ⟨i, hi⟩ := List.exists_mem_of_ne_nil _ hne
        refine ⟨i, List.mem_append_right _ hi, ?_⟩
        rw [(path_of_mem_unknownIssues hi).1]
        exact List.prefix_append path _
      | inside hform hamiss =>
        obtain ⟨i, hi, hpath⟩ := hf.complete h path d _ _ (Mapping.mem_of_get? hform) hamiss
        exact ⟨i, List.mem_append_left _ hi, hpath⟩
    · rw [Fields.exactRecord, if_neg hkind]
      exact ⟨_, List.mem_singleton_self _, List.prefix_append path _⟩
  sound h path d i hi := by
    by_cases hkind : DataKind.ofDatum h d = .record
    · rw [exactRecord_of_record hkind, Checked.issues_withIssues] at hi
      rcases List.mem_append.1 hi with hi | hi
      · obtain ⟨e, he, keys, hpath, hfaulty⟩ := hf.sound h path d i hi
        exact ⟨e.1 :: keys, hpath, .inside ((Mapping.get?_eq_some_iff hnodup).2 he) hfaulty⟩
      · obtain ⟨hpath, key, hkey, hunknown⟩ := path_of_mem_unknownIssues hi
        rw [hf.keys_eq] at hunknown
        exact ⟨[], hpath.trans (List.append_nil path).symm, .unknown hkey hunknown⟩
    · rw [Fields.exactRecord, if_neg hkind] at hi
      obtain rfl := List.mem_singleton.1 hi
      by_cases hobject : h.IsObject d
      · -- an object that does not count as a record has functions under keys that are unknown
        have hkey : ("then" : Text) ∈ (h.properties d).keys := by
          by_contra hmissing
          exact hkind (DataKind.record_of_isObject hobject hmissing)
        exact ⟨[], (List.append_nil path).symm, .unknown hkey hthen⟩
      · exact ⟨[], (List.append_nil path).symm, .wrong hobject⟩

end Fields

end BraceTemplate
