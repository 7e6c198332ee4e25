import BraceTemplate.Schema
import BraceTemplate.Proofs.Mapping

/-!
# What schemas accept

A schema that combines others accepts data exactly if these do. So a record that was read can be taken apart into its
fields, and a record whose fields are acceptable can be read.

* `Checked.ap_eq_valid_iff` — joined results;
* `Fields.check_record_eq_valid_iff`, `Fields.read_map`, `Fields.read_seq` — records and their fields;
* `Schema.text_eq_valid_iff`, `Schema.anyRecord_eq_valid_iff` and others — what a single field is read into.
-/

namespace BraceTemplate

variable {α β : Type}

namespace Checked

/-- Two results joined are valid exactly if both are. -/
theorem ap_eq_valid_iff {f : Checked (α → β)} {c : Checked α} {b : β} :
    ap f c = .valid b ↔ ∃ g a, f = .valid g ∧ c = .valid a ∧ g a = b := by
  constructor
  · intro h
    cases f with
    | invalid issues => cases c <;> cases h
    | valid g =>
      cases c with
      | invalid issues => cases h
      | valid a =>
        cases h
        exact ⟨g, a, rfl, rfl, rfl⟩
  · rintro ⟨g, a, rfl, rfl, rfl⟩
    rfl

theorem all_map_valid (l : List α) : all (l.map .valid) = .valid l := by
  induction l with
  | nil => rfl
  | cons a rest ih =>
    rw [List.map_cons, all, ih]
    rfl

theorem orElse_eq_ok_iff {ε : Type} {c : Checked α} {error : List Issue → ε} {a : α} :
    c.orElse error = .ok a ↔ c = .valid a := by
  cases c with
  | valid b =>
    constructor
    · intro h
      cases h
      rfl
    · intro h
      cases h
      rfl
  | invalid issues =>
    constructor
    · intro h
      cases h
    · intro h
      cases h

end Checked

/-! ## Records -/

/-- What holds no function is a record and nothing else. -/
theorem DataKind.ofRecord_of_forall_ne {entries : Mapping Datum} (hall : ∀ e ∈ entries, e.2 ≠ .function) :
    ofRecord entries = .record := by
  unfold ofRecord
  cases hthen : Mapping.get? entries "then" with
  | none => simp [hthen]
  | some d =>
    have hne : d ≠ .function := hall _ (Mapping.mem_of_get? hthen)
    simp [hthen, hne]

namespace Fields

variable {h : Heap} {path : List PathStep} {d : Datum}

theorem read_map (g : α → β) (f : Fields α) :
    (g <$> f).read h path d = Checked.ap (.valid g) (f.read h path d) :=
  rfl

theorem read_seq (f : Fields (α → β)) (a : Fields α) :
    (f <*> a).read h path d = Checked.ap (f.read h path d) (a.read h path d) :=
  rfl

/-- Data are read as a record exactly if they are one and its fields can be read. -/
theorem check_record_eq_valid_iff {fields : Fields α} {data : Data} {a : α} :
    fields.record.check data = .valid a ↔
      DataKind.ofDatum data.heap data.root = .record ∧ fields.read data.heap [] data.root = .valid a := by
  unfold Schema.check record
  split
  · rename_i hkind
    exact (and_iff_right hkind).symm
  · rename_i hkind
    constructor
    · intro h
      cases h
    · rintro ⟨hrecord, -⟩
      exact absurd hrecord hkind

end Fields

/-! ## Fields -/

namespace Schema

variable {h : Heap} {path : List PathStep} {d : Datum}

theorem text_eq_valid_iff {t : Text} : text h path d = .valid t ↔ d = .text t := by
  unfold text
  constructor
  · intro hread
    split at hread
    · cases hread
      rfl
    · cases hread
  · rintro rfl
    rfl

theorem nonEmptyText_eq_valid_iff {t : Text} : nonEmptyText h path d = .valid t ↔ d = .text t ∧ t ≠ [] := by
  unfold nonEmptyText
  constructor
  · intro hread
    split at hread
    · cases hread
    · rename_i hne
      refine ⟨text_eq_valid_iff.1 hread, ?_⟩
      rintro rfl
      exact hne hread
  · rintro ⟨rfl, hne⟩
    cases t with
    | nil => exact absurd rfl hne
    | cons u rest => rfl

/-- A list without gaps is read item by item. -/
theorem listOf_of_items {s : Schema α} {f : α → Datum} {as : List α}
    (hitems : h.items? d = some (as.map fun a => some (f a))) (hs : ∀ path a, s h path (f a) = .valid a) :
    listOf s h path d = .valid as := by
  have hread : (as.map fun a => some (f a)).mapIdx
      (fun i item => s h (path ++ [.index i]) (item.getD .undefined)) = as.map .valid := by
    apply List.ext_getElem?
    intro i
    rw [List.getElem?_mapIdx, List.getElem?_map, List.getElem?_map, Option.map_map]
    exact congrArg (as[i]?.map ·) (funext fun a => hs _ a)
  unfold listOf
  simp only [hitems, hread, Checked.all_map_valid]

theorem withDefault_of_ne {s : Schema α} {standard : α} (hd : d ≠ .undefined) :
    withDefault s standard h path d = s h path d := by
  unfold withDefault
  split
  · exact absurd rfl hd
  · rfl

theorem optional_of_valid {s : Schema α} {a : α} (hd : d ≠ .undefined) (hs : s h path d = .valid a) :
    optional s h path d = .valid (some a) := by
  unfold optional
  split
  · exact absurd rfl hd
  · rw [hs]

theorem valid_of_optional {s : Schema α} {a : α} (hread : optional s h path d = .valid (some a)) :
    s h path d = .valid a := by
  unfold optional at hread
  split at hread
  · cases hread
  · split at hread
    · rename_i hs
      cases hread
      exact hs
    · cases hread

/-- A record of anything keeps the properties of a record but for the hidden key. -/
theorem anyRecord_eq_valid_iff {m : Mapping Datum} : anyRecord h path d = .valid m ↔
    DataKind.ofDatum h d = .record ∧ (h.properties d).filter (fun e => e.1 != hiddenKey) = m := by
  unfold anyRecord
  split
  · rename_i hkind
    simp [hkind]
  · rename_i hkind
    constructor
    · intro hread
      cases hread
    · rintro ⟨hrecord, -⟩
      exact absurd hrecord hkind

end Schema

end BraceTemplate
