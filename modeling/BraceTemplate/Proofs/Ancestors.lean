import BraceTemplate.Proofs.Conversion
import Mathlib.Data.Finset.Basic

/-!
# Conversions with one set of containers

The conversion of a datum is told the containers that it is inside of. It can also be done with one set for the
whole walk, which a container joins when it is entered and leaves on every way out, with a value or with a fault.
Such a walk gives the same results, and after each datum the set is what it was before:

* `Computes` — a walk gives a result and leaves its set alone; closed under sequences, lists and `inside`;
* `computes_walk` — the walk of a datum gives its conversion, and goes no deeper than there are containers.
-/

namespace BraceTemplate

/-- What a datum is by itself; a reference is nothing. -/
def Datum.alone : Datum → Value
  | .undefined | .function | .symbol | .node _ => .null
  | .value v => v.normalise
  | .bigint n => .text (Text.ofInt n)
  | .date none => .null
  | .date (some t) => .text (Instant.isoText t)

/-- Why a walk ends without a value. -/
inductive Walk.Stop where
  | fault (f : Fault)
  | tooDeep

/-- A computation with one set of containers. -/
abbrev Walk (α : Type) := ExceptT Walk.Stop (StateM (Finset Nat)) α

namespace Walk

variable {α β : Type}

/-- A computation inside a container. The container joins the set, and leaves it however the computation
ends. -/
def inside (id : Nat) (body : Walk α) : Walk α := ExceptT.mk do
  modify (insert id)
  let ended ← body.run
  modify fun around => around.erase id
  return ended

/-- A result as a computation. -/
def ofExcept : Except Fault α → Walk α
  | .ok a => pure a
  | .error fault => throw (.fault fault)

/-- A walk ends as a result does, and leaves the set as it was. -/
def Computes (w : Walk α) (around : Finset Nat) (result : Except Fault α) : Prop :=
  w.run.run around = (result.mapError Stop.fault, around)

theorem Computes.pure (a : α) (around : Finset Nat) : Computes (Pure.pure a) around (Pure.pure a) := rfl

theorem computes_ofExcept (result : Except Fault α) (around : Finset Nat) :
    Computes (ofExcept result) around result := by
  cases result <;> rfl

/-- After a walk that leaves the set alone the next one finds it as the first did. -/
theorem Computes.bind {w : Walk α} {next : α → Walk β} {around : Finset Nat} {result : Except Fault α}
    {then' : α → Except Fault β} (hw : Computes w around result)
    (hnext : ∀ a, result = .ok a → Computes (next a) around (then' a)) :
    Computes (w >>= next) around (result >>= then') := by
  unfold Computes at hw ⊢
  rw [ExceptT.run_bind, StateT.run_bind, hw]
  cases result with
  | error fault => rfl
  | ok a => exact hnext a rfl

theorem Computes.mapM {f : α → Walk β} {g : α → Except Fault β} {around : Finset Nat} {l : List α}
    (h : ∀ a ∈ l, Computes (f a) around (g a)) : Computes (l.mapM f) around (l.mapM g) := by
  induction l with
  | nil => exact .pure [] around
  | cons a l ih =>
    obtain ⟨hfirst, hrest⟩ := List.forall_mem_cons.1 h
    rw [List.mapM_cons, List.mapM_cons]
    exact hfirst.bind fun b _ => (ih hrest).bind fun bs _ => .pure (b :: bs) around

/-- A gap is passed over. -/
theorem Computes.optionMapM {f : α → Walk β} {g : α → Except Fault β} {around : Finset Nat} {item : Option α}
    (h : ∀ a, Computes (f a) around (g a)) : Computes (item.mapM f) around (item.mapM g) := by
  cases item with
  | none => exact .pure none around
  | some a =>
    rw [Option.mapM_some, Option.mapM_some, map_eq_pure_bind, map_eq_pure_bind]
    exact (h a).bind fun b _ => .pure (some b) around

/-- What a container adds to the set it takes out again. -/
theorem Computes.inside {id : Nat} {body : Walk α} {around : Finset Nat} {result : Except Fault α}
    (hid : id ∉ around) (hbody : Computes body (insert id around) result) :
    Computes (inside id body) around result := by
  have hrun : (Walk.inside id body).run.run around =
      ((body.run.run (insert id around)).1, (body.run.run (insert id around)).2.erase id) := rfl
  unfold Computes at hbody ⊢
  rw [hrun, hbody, Finset.erase_insert hid]

/-- To look at the set does not change it. -/
theorem Computes.get_bind {next : Finset Nat → Walk α} {around : Finset Nat} {result : Except Fault α}
    (h : Computes (next around) around result) : Computes (get >>= next) around result :=
  h

end Walk

/-! ## The conversion, container by container -/

namespace Heap

variable {h : Heap} {path : List Nat} {id : Nat}

theorem toValue_of_mem (hid : id ∈ path) : h.toValue path (.node id) = .ok .null := by
  rw [toValue, dif_pos hid]

/-- A datum that is no container is converted by itself. -/
theorem toValue_alone {d : Datum} (hd : ∀ id c, d = .node id → h[id]? ≠ some c) :
    h.toValue path d = .ok d.alone := by
  cases d with
  | node id =>
    rw [toValue]
    split
    · rfl
    · split
      · rfl
      · rename_i hc
        exact absurd hc (hd id _ rfl)
      · rename_i hc
        exact absurd hc (hd id _ rfl)
  | date d => cases d <;> rw [toValue] <;> rfl
  | undefined | value v | bigint i | function | symbol => rw [toValue]; rfl

theorem toValue_array {items : List (Option Datum)} (hid : id ∉ path) (hc : h[id]? = some (.array items)) :
    h.toValue path (.node id) = (do
      let values ← items.mapM fun item => item.mapM (h.toValue (id :: path))
      return .list values) := by
  rw [toValue, dif_neg hid]
  split
  · rename_i hnone
    rw [hc] at hnone
    cases hnone
  · rename_i items' harray
    rw [hc] at harray
    cases harray
    rfl
  · rename_i hother hc'
    rw [hc] at hc'
    cases hc'
    exact absurd rfl (hother items)

theorem toValue_entries {c : Container} (hid : id ∉ path) (hc : h[id]? = some c)
    (hkind : ∀ items, c ≠ .array items) :
    h.toValue path (.node id) = (do
      let entries ← h.namedEntries c
      let values ← (entries.filter fun e => !e.2.isDropped).mapM fun e => do
        return (e.1, ← h.toValue (id :: path) e.2)
      return .mapping (Mapping.ofList values)) := by
  rw [toValue, dif_neg hid]
  split
  · rename_i hnone
    rw [hc] at hnone
    cases hnone
  · rename_i items harray
    rw [hc] at harray
    exact absurd (Option.some.inj harray) (hkind items)
  · rename_i c' _ hc'
    rw [hc] at hc'
    cases hc'
    rfl

theorem toValue_of_record {entries : Mapping Datum} (hid : id ∉ path) (hc : h[id]? = some (.record entries)) :
    h.toValue path (.node id) = (do
      let values ← (entries.filter fun e => !e.2.isDropped).mapM fun e => do
        return (e.1, ← h.toValue (id :: path) e.2)
      return .mapping (Mapping.ofList values)) := by
  rw [toValue_entries hid hc (by simp)]
  rfl

/-- What holds of every datum by itself and of references back, and of a container if it holds of what is in it, holds
of all that is converted. The induction is on the containers that can still be entered. -/
theorem toValue_induction {S : Datum → Value → Prop}
    (alone : ∀ d, (∀ id c, d = .node id → h[id]? ≠ some c) → S d d.alone)
    (back : ∀ id, S (.node id) .null)
    (list : ∀ id items values, h[id]? = some (.array items) → List.Forall₂ (Option.Rel S) items values →
      S (.node id) (.list values))
    (mapping : ∀ id c entries values, h[id]? = some c → h.namedEntries c = .ok entries →
      List.Forall₂ (fun e f => e.1 = f.1 ∧ S e.2 f.2) (entries.filter fun e => !e.2.isDropped) values →
      S (.node id) (.mapping (Mapping.ofList values)))
    {d : Datum} {v : Value} (hv : h.toValue path d = .ok v) : S d v := by
  induction hn : h.unvisited path using Nat.strongRecOn generalizing path d v with
  | ind n ih =>
    by_cases hentered : ∃ id c, d = .node id ∧ h[id]? = some c
    · obtain ⟨id, c, rfl, hc⟩ := hentered
      by_cases hid : id ∈ path
      · rw [toValue_of_mem hid] at hv
        cases hv
        exact back id
      · have hlt : h.unvisited (id :: path) < n := hn ▸ unvisited_cons_lt hid hc
        have hinner : ∀ d v, h.toValue (id :: path) d = .ok v → S d v := by
          intro d v hv
          exact ih _ hlt hv rfl
        by_cases harray : ∃ items, c = .array items
        · obtain ⟨items, rfl⟩ := harray
          rw [toValue_array hid hc] at hv
          obtain ⟨values, hvalues, heq⟩ := exists_of_bind_eq_ok hv
          cases heq
          -- at each place there is a gap still, or what the item became
          refine list id items values hc ((mapM_places_eq_ok_iff.1 hvalues).imp fun item value hitem => ?_)
          cases hitem with
          | some hd => exact .some (hinner _ _ hd)
          | none => exact .none
        · rw [toValue_entries hid hc fun items heq => harray ⟨items, heq⟩] at hv
          obtain ⟨entries, hentries, hv⟩ := exists_of_bind_eq_ok hv
          obtain ⟨values, hvalues, heq⟩ := exists_of_bind_eq_ok hv
          cases heq
          refine mapping id c entries values hc hentries ((mapM_eq_ok_iff.1 hvalues).imp fun e f hentry => ?_)
          obtain ⟨v, hv, heq⟩ := exists_of_bind_eq_ok hentry
          cases heq
          exact ⟨rfl, hinner _ _ hv⟩
    · have halone : ∀ id c, d = .node id → h[id]? ≠ some c := fun id c hd hc => hentered ⟨id, c, hd, hc⟩
      rw [toValue_alone halone] at hv
      cases hv
      exact alone d halone

/-! ## The walk -/

/-- Converts a datum, at most `depth` containers deep, with one set of the containers that it is inside of. -/
def walk (h : Heap) : Nat → Datum → Walk Value
  | 0, _ => throw .tooDeep
  | depth + 1, .node id => do
    if id ∈ (← get) then return .null
    else match h[id]? with
      | none => return .null
      | some (.array items) => Walk.inside id do
        let values ← items.mapM fun item => item.mapM (h.walk depth)
        return .list values
      | some c => Walk.inside id do
        let entries ← Walk.ofExcept (h.namedEntries c)
        let values ← (entries.filter fun e => !e.2.isDropped).mapM fun e => do
          return (e.1, ← h.walk depth e.2)
        return .mapping (Mapping.ofList values)
  | _ + 1, d => return d.alone

open Walk in
/-- The entries of a container are walked as they are converted, if the data inside it are. -/
theorem computes_entries {walk : Datum → Walk Value} {toValue : Datum → Except Fault Value} {around : Finset Nat}
    (hinner : ∀ d, Computes (walk d) around (toValue d)) (c : Container) :
    Computes (do
      let entries ← Walk.ofExcept (h.namedEntries c)
      let values ← (entries.filter fun e => !e.2.isDropped).mapM fun e => do
        return (e.1, ← walk e.2)
      return Value.mapping (Mapping.ofList values)) around (do
      let entries ← h.namedEntries c
      let values ← (entries.filter fun e => !e.2.isDropped).mapM fun e => do
        return (e.1, ← toValue e.2)
      return Value.mapping (Mapping.ofList values)) := by
  refine (computes_ofExcept _ _).bind fun entries _ => ?_
  have hentry : ∀ e : Text × Datum,
      Computes (do return (e.1, ← walk e.2)) around (do return (e.1, ← toValue e.2)) := by
    intro e
    exact (hinner e.2).bind fun v _ => .pure _ _
  exact (Computes.mapM fun e _ => hentry e).bind fun values _ => .pure _ _

open Walk in
/-- The walk of a datum gives its conversion, with a value or a fault, and leaves the set as it was. It goes no
deeper than there are containers to enter. -/
theorem computes_walk (depth : Nat) : ∀ (path : List Nat) (d : Datum), h.unvisited path < depth →
    Computes (h.walk depth d) path.toFinset (h.toValue path d) := by
  induction depth with
  | zero => exact fun path d hdepth => absurd hdepth (Nat.not_lt_zero _)
  | succ depth ih =>
    intro path d hdepth
    by_cases hentered : ∃ id c, d = .node id ∧ h[id]? = some c
    · obtain ⟨id, c, rfl, hc⟩ := hentered
      refine Computes.get_bind ?_
      by_cases hid : id ∈ path
      · rw [if_pos (List.mem_toFinset.2 hid), toValue_of_mem hid]
        exact .pure _ _
      · have hset : id ∉ path.toFinset := fun hmem => hid (List.mem_toFinset.1 hmem)
        have hlt : h.unvisited (id :: path) < depth :=
          Nat.lt_of_lt_of_le (unvisited_cons_lt hid hc) (Nat.le_of_lt_succ hdepth)
        have hinner : ∀ d, Computes (h.walk depth d) (insert id path.toFinset) (h.toValue (id :: path) d) := by
          intro d
          rw [← List.toFinset_cons]
          exact ih (id :: path) d hlt
        rw [if_neg hset]
        cases c with
        | array items =>
          rw [toValue_array hid hc]
          simp only [hc]
          refine Computes.inside hset ?_
          exact (Computes.mapM fun item _ => .optionMapM hinner).bind fun values _ => .pure _ _
        | record entries =>
          rw [toValue_entries hid hc (by simp)]
          simp only [hc]
          exact Computes.inside hset (computes_entries hinner _)
        | map entries =>
          rw [toValue_entries hid hc (by simp)]
          simp only [hc]
          exact Computes.inside hset (computes_entries hinner _)
    · have halone : ∀ id c, d = .node id → h[id]? ≠ some c :=
        fun id c hd hc => hentered ⟨id, c, hd, hc⟩
      rw [toValue_alone halone]
      cases d with
      | node id =>
        have hnone : h[id]? = none := Option.eq_none_iff_forall_ne_some.2 fun c => halone id c rfl
        refine Computes.get_bind ?_
        simp only [hnone]
        split <;> exact .pure _ _
      | undefined | value v | bigint i | function | symbol | date d => exact .pure _ _

end Heap

end BraceTemplate
