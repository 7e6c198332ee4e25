import BraceTemplate.Proofs.Ancestors
import BraceTemplate.Proofs.Escapes
import BraceTemplate.Proofs.KeyOrder

/-!
# Normal values

Whatever a caller hands over, and whatever a function gives back, a template sees only normal values: their numbers are
finite, and the keys of their mappings are in order. A value that is normal already is not changed by being made normal.
Lists have gaps only where a caller's arrays had them.

* `isNormal_normalise`, `normalise_of_isNormal` — normal values are those that are made normal, and stay as they are;
* `Data.isNormal_toValue`, `Data.isDense_toValue` — a caller's data become a normal value, which has no new gaps;
* `Context.isNormal_create`, `Context.IsNormal.bind`, `Context.IsNormal.merge` — every context that can be made is normal;
* `Builtin.invoke_of_returns` — what a built-in function gives is made normal as well;
* `Operand.isNormal_of_evaluate` — an operand that is no literal has a normal value.
-/

namespace BraceTemplate

/-! ## Values -/

namespace Value

/-- All numbers inside a value and the keys of all mappings inside it are as asked, and no list inside it has a gap
unless there may be gaps. -/
inductive Throughout (P : Number → Prop) (Q : List Text → Prop) (gaps : Prop) : Value → Prop
  | null : Throughout P Q gaps null
  | bool (b : Bool) : Throughout P Q gaps (bool b)
  | number {n : Number} : P n → Throughout P Q gaps (number n)
  | text (t : Text) : Throughout P Q gaps (text t)
  | list {items : List (Option Value)} : (none ∈ items → gaps) → (∀ v ∈ items.reduceOption, Throughout P Q gaps v) →
      Throughout P Q gaps (list items)
  | mapping {entries : List (Text × Value)} : Q (Mapping.keys entries) →
      (∀ e ∈ entries, Throughout P Q gaps e.2) → Throughout P Q gaps (mapping entries)

/-- Finite numbers only, and keys in order. There may be gaps: a gap is no item that could be anything. -/
abbrev IsNormal : Value → Prop :=
  Throughout (fun n => n.isFinite) (List.Pairwise Mapping.Precedes) True

/-- Lists without gaps only. -/
abbrev IsDense : Value → Prop :=
  Throughout (fun _ => True) (fun _ => True) False

theorem Throughout.mono {P P' : Number → Prop} {Q Q' : List Text → Prop} {gaps gaps' : Prop}
    (hnumber : ∀ n, P n → P' n) (hkeys : ∀ keys, Q keys → Q' keys) (hgaps : gaps → gaps') {v : Value}
    (h : v.Throughout P Q gaps) : v.Throughout P' Q' gaps' := by
  induction h with
  | null => exact .null
  | bool b => exact .bool b
  | number h => exact .number (hnumber _ h)
  | text t => exact .text t
  | list h _ ih => exact .list (hgaps ∘ h) ih
  | mapping h _ ih => exact .mapping (hkeys _ h) ih

theorem Throughout.ofList {P : Number → Prop} {Q : List Text → Prop} {gaps : Prop} {items : List Value}
    (h : ∀ v ∈ items, v.Throughout P Q gaps) : (Value.ofList items).Throughout P Q gaps := by
  refine .list (by simp) ?_
  intro v hv
  obtain ⟨w, hw, heq⟩ := List.mem_map.1 (List.reduceOption_mem_iff.1 hv)
  cases heq
  exact h v hw

theorem isNormal_list_iff {items : List (Option Value)} :
    (list items).IsNormal ↔ ∀ v ∈ items.reduceOption, v.IsNormal := by
  constructor
  · rintro (_ | _ | _ | _ | ⟨_, h⟩ | _)
    exact h
  · exact .list fun _ => trivial

theorem isNormal_mapping_iff {entries : List (Text × Value)} :
    (mapping entries).IsNormal ↔ Mapping.Ordered entries ∧ ∀ e ∈ entries, e.2.IsNormal := by
  constructor
  · rintro (_ | _ | _ | _ | _ | ⟨hkeys, hvalues⟩)
    exact ⟨hkeys, hvalues⟩
  · intro h
    exact .mapping h.1 h.2

/-- A mapping stays normal when a normal value is put into it. -/
theorem IsNormal.put {m : Mapping Value} (h : (mapping m).IsNormal) (key : Text) {v : Value} (hv : v.IsNormal) :
    (mapping (m.put key v)).IsNormal := by
  rcases isNormal_mapping_iff.1 h with ⟨hordered, hvalues⟩
  refine .mapping (hordered.put key v) ?_
  intro e he
  rcases Mapping.mem_of_mem_put he with rfl | he
  · exact hv
  · exact hvalues e he

theorem IsNormal.putAll {m : Mapping Value} (h : (mapping m).IsNormal) {entries : List (Text × Value)}
    (hentries : ∀ e ∈ entries, e.2.IsNormal) : (mapping (m.putAll entries)).IsNormal := by
  rcases isNormal_mapping_iff.1 h with ⟨hordered, hvalues⟩
  refine .mapping (hordered.putAll entries) ?_
  intro e he
  rcases Mapping.mem_of_mem_putAll he with he | he
  · exact hentries e he
  · exact hvalues e he

theorem isNormal_ofList {entries : List (Text × Value)} (hentries : ∀ e ∈ entries, e.2.IsNormal) :
    (mapping (Mapping.ofList entries)).IsNormal := by
  have hnil : (mapping []).IsNormal := .mapping .nil (List.forall_mem_nil _)
  exact hnil.putAll hentries

theorem isDense_ofList {entries : List (Text × Value)} (hentries : ∀ e ∈ entries, e.2.IsDense) :
    (mapping (Mapping.ofList entries)).IsDense := by
  refine .mapping trivial ?_
  intro e he
  rcases Mapping.mem_of_mem_putAll he with he | he
  · exact hentries e he
  · cases he

theorem normaliseAll_eq (items : List (Option Value)) : normaliseAll items = items.map (Option.map normalise) := by
  induction items with
  | nil => rw [normaliseAll, List.map_nil]
  | cons item rest ih =>
    cases item with
    | none => rw [normaliseAll, ih, List.map_cons, Option.map_none]
    | some v => rw [normaliseAll, ih, List.map_cons, Option.map_some]

theorem normaliseEntries_eq (done : Mapping Value) (entries : List (Text × Value)) :
    normaliseEntries done entries = done.putAll (entries.map fun e => (e.1, e.2.normalise)) := by
  induction entries generalizing done with
  | nil =>
    rw [normaliseEntries]
    rfl
  | cons e rest ih =>
    rw [normaliseEntries, ih]
    rfl

mutual

/-- What is made normal is normal. -/
theorem isNormal_normalise (v : Value) : v.normalise.IsNormal := by
  cases v with
  | null => exact .null
  | bool b => exact .bool b
  | number n =>
    rw [normalise]
    split
    · rename_i hfinite
      exact .number hfinite
    · exact .null
  | text t => exact .text t
  | list items =>
    rw [normalise, normaliseAll_eq, isNormal_list_iff, List.reduceOption_map]
    exact List.forall_mem_map.2 (isNormal_normalise_items items)
  | mapping entries =>
    rw [normalise, normaliseEntries_eq]
    exact isNormal_ofList (List.forall_mem_map.2 (isNormal_normalise_entries entries))

theorem isNormal_normalise_items (items : List (Option Value)) : ∀ v ∈ items.reduceOption, v.normalise.IsNormal := by
  match items with
  | [] => exact List.forall_mem_nil _
  | none :: rest =>
    rw [List.reduceOption_cons_of_none]
    exact isNormal_normalise_items rest
  | some v :: rest =>
    rw [List.reduceOption_cons_of_some, List.forall_mem_cons]
    exact ⟨isNormal_normalise v, isNormal_normalise_items rest⟩

theorem isNormal_normalise_entries (entries : List (Text × Value)) : ∀ e ∈ entries, e.2.normalise.IsNormal := by
  match entries with
  | [] => exact List.forall_mem_nil _
  | (_, v) :: rest => exact List.forall_mem_cons.2 ⟨isNormal_normalise v, isNormal_normalise_entries rest⟩

end

/-- A normal value stays as it is. -/
theorem normalise_of_isNormal {v : Value} (h : v.IsNormal) : v.normalise = v := by
  induction h with
  | null => rfl
  | bool b => rfl
  | number hfinite => rw [normalise, if_pos hfinite]
  | text t => rfl
  | list _ _ ih =>
    rename_i items _ _
    have hitem : ∀ item ∈ items, item.map normalise = item := by
      intro item hitem
      cases item with
      | none => rfl
      | some v => exact congrArg some (ih v (List.reduceOption_mem_iff.2 hitem))
    have hitems : items.map (Option.map normalise) = items := by
      calc items.map (Option.map normalise)
        _ = items.map id := List.map_congr_left hitem
        _ = items := List.map_id items
    rw [normalise, normaliseAll_eq, hitems]
  | mapping hkeys _ ih =>
    rename_i entries _
    have hentries : (entries.map fun e => (e.1, e.2.normalise)) = entries := by
      calc (entries.map fun e => (e.1, e.2.normalise))
        _ = entries.map id := List.map_congr_left fun e he => Prod.ext rfl (ih e he)
        _ = entries := List.map_id entries
    rw [normalise, normaliseEntries_eq, hentries]
    exact congrArg mapping (Mapping.ofList_of_ordered hkeys)

/-- Making a value normal makes no gaps. -/
theorem IsDense.normalise {v : Value} (h : v.IsDense) : v.normalise.IsDense := by
  induction h with
  | null => exact .null
  | bool b => exact .bool b
  | number =>
    rw [Value.normalise]
    split
    · exact .number trivial
    · exact .null
  | text t => exact .text t
  | list hgaps _ ih =>
    rw [Value.normalise, normaliseAll_eq]
    refine .list ?_ ?_
    · -- a place that is empty now was empty before
      intro hnone
      obtain ⟨item, hitem, heq⟩ := List.mem_map.1 hnone
      rw [Option.map_eq_none_iff.1 heq] at hitem
      exact hgaps hitem
    · rw [List.reduceOption_map]
      exact List.forall_mem_map.2 ih
  | mapping _ _ ih =>
    rw [Value.normalise, normaliseEntries_eq]
    exact isDense_ofList (List.forall_mem_map.2 ih)

/-- What a path reads inside a normal value is normal. -/
theorem IsNormal.path? {v w : Value} {keys : List Text} (h : v.IsNormal) (hw : v.path? keys = some w) :
    w.IsNormal := by
  induction keys generalizing v with
  | nil =>
    rw [Value.path?] at hw
    rwa [← Option.some.inj hw]
  | cons key keys ih =>
    cases h with
    | null | bool | number | text | list =>
      rw [Value.path?] at hw
      · cases hw
      · simp
    | mapping hkeys hvalues =>
      rename_i entries
      rw [Value.path?] at hw
      cases hinner : Mapping.get? entries key with
      | none => simp [hinner] at hw
      | some inner =>
        simp only [hinner] at hw
        exact ih (hvalues _ (Mapping.mem_of_get? hinner)) hw

end Value

/-! ## Data -/

theorem Datum.isNormal_alone (d : Datum) : d.alone.IsNormal := by
  cases d with
  | value v => exact v.isNormal_normalise
  | bigint n => exact .text _
  | date d =>
    cases d with
    | none => exact .null
    | some t => exact .text _
  | undefined | function | symbol | node => exact .null

namespace Heap

variable {h : Heap}

/-- A datum becomes a normal value wherever it is. -/
theorem isNormal_toValue {path : List Nat} {d : Datum} {v : Value} (hv : h.toValue path d = .ok v) : v.IsNormal := by
  refine toValue_induction (S := fun _ v => v.IsNormal) ?_ ?_ ?_ ?_ hv
  · exact fun d _ => d.isNormal_alone
  · exact fun _ => .null
  · intro id items values _ hitems
    rw [Value.isNormal_list_iff]
    intro w hw
    obtain ⟨item, -, hitem⟩ := exists_of_mem_forall₂ hitems (List.reduceOption_mem_iff.1 hw)
    cases hitem with
    | some hw => exact hw
  · intro id c entries values _ _ hentries
    apply Value.isNormal_ofList
    intro f hf
    obtain ⟨e, -, -, hvalue⟩ := exists_of_mem_forall₂ hentries hf
    exact hvalue

end Heap

theorem Data.isNormal_toValue {data : Data} {v : Value} (hv : data.toValue = .ok v) : v.IsNormal :=
  Heap.isNormal_toValue hv

/-- A value that is handed over by itself is made normal. -/
theorem Data.toValue_ofValue (v : Value) : (ofValue v).toValue = .ok v.normalise := by
  apply Heap.toValue_alone
  rintro id c hroot -
  cases hroot

/-! ## Contexts -/

namespace Context

/-- All three namespaces are normal. -/
structure IsNormal (ctx : Context) : Prop where
  bindings : (Value.mapping ctx.bindings).IsNormal
  conversationData : (Value.mapping ctx.conversationData).IsNormal
  userData : (Value.mapping ctx.userData).IsNormal

/-- A context without data of a conversation or of a user is normal if its variables are. -/
theorem isNormal_of_bindings {bindings : Mapping Value} (h : (Value.mapping bindings).IsNormal) :
    IsNormal ⟨bindings, [], []⟩ := by
  have hempty : (Value.mapping []).IsNormal := .mapping .nil (List.forall_mem_nil _)
  exact ⟨h, hempty, hempty⟩

namespace IsNormal

variable {ctx : Context} (h : ctx.IsNormal)
include h

/-- A loop renders its body in a normal context, whatever the item. -/
theorem bind (name : Text) (v : Value) : (ctx.bind name v).IsNormal :=
  ⟨h.bindings.put name v.isNormal_normalise, h.conversationData, h.userData⟩

theorem bindData {name : Text} {data : Data} {bound : Context} (hbound : ctx.bindData name data = .ok bound) :
    bound.IsNormal := by
  rcases exists_of_bind_eq_ok hbound with ⟨v, hv, heq⟩
  cases heq
  exact ⟨h.bindings.put name (Data.isNormal_toValue hv), h.conversationData, h.userData⟩

theorem merge {overlay : Context} (hoverlay : overlay.IsNormal) : (ctx.merge overlay).IsNormal := by
  constructor
  · exact h.bindings.putAll (Value.isNormal_mapping_iff.1 hoverlay.bindings).2
  · exact h.conversationData.putAll (Value.isNormal_mapping_iff.1 hoverlay.conversationData).2
  · exact h.userData.putAll (Value.isNormal_mapping_iff.1 hoverlay.userData).2

theorem resolve? {segments : List Text} {v : Value} (hv : ctx.resolve? segments = some v) : v.IsNormal := by
  cases segments with
  | nil => cases hv
  | cons head fields =>
    simp only [Context.resolve?] at hv
    split_ifs at hv
    · exact h.conversationData.path? hv
    · exact h.userData.path? hv
    · exact h.bindings.path? hv

theorem present? {p : Path} {v : Value} (hv : ctx.present? p = some v) : v.IsNormal :=
  h.resolve? (Option.filter_eq_some_iff.1 hv).1

end IsNormal

end Context

/-! ## Evaluation -/

section Evaluation

variable {σ : Type} {registry : Registry σ} {ctx : Context} {host : σ} {v : Value}

/-- What a function gives is normal. -/
theorem Definition.isNormal_of_invoke {d : Definition σ} {args : List Value}
    (h : (d.invoke args host).answer = .ok (some v)) : v.IsNormal := by
  rw [d.invoke_eq] at h
  simp only at h
  cases houtcome : (d.callback.run #[] (args.map .value) host).1 with
  | returned data =>
    rw [houtcome, Outcome.answer] at h
    cases hvalue : data.toValue with
    | ok w =>
      simp only [hvalue] at h
      cases h
      exact Data.isNormal_toValue hvalue
    | error fault =>
      simp only [hvalue] at h
      cases h
  | failed fault =>
    rw [houtcome] at h
    cases h
  | threw data =>
    rw [houtcome] at h
    rcases exists_of_bind_eq_ok h with ⟨_, _, hnone⟩
    cases hnone

/-- A built-in function that gives a value is done with that. -/
theorem Builtin.invoke_of_returns {d : Definition σ} {arity : Nat} {f : Heap → List Datum → Except Fault Data}
    (hcallback : d.callback = pureCallback arity f) {args : List Value}
    (h : f #[] (args.map .value) = .ok (.ofValue v)) (host : σ) :
    d.invoke args host = ⟨.ok (some v.normalise), host, [.invoked d.name args]⟩ := by
  simp only [Definition.invoke, hcallback, pureCallback, h, Data.toValue_ofValue]

/-- A call that is accepted invokes its function, whose answer may still count as absent. -/
theorem Call.evaluate_of_accepted {c : Call} {d : Definition σ} {values : List Value}
    (hfunction : registry.get? c.name = some d) (henough : d.minArguments.gtNat c.arguments.length = false)
    (haccept : d.accept? (c.arguments.map (Argument.resolve? ctx)) = some values) :
    c.evaluate registry ctx = (do
      let result ← d.invoke values
      return result.filter fun v =>
        !(v.isNull && (c.arguments.map (Argument.resolve? ctx)).any Option.isNone)) := by
  simp only [evaluate, hfunction, henough, haccept, Bool.false_eq_true, if_false]

/-- A call is refused and has no value, or it is accepted. -/
theorem Call.evaluate_cases (registry : Registry σ) (ctx : Context) (c : Call) :
    c.evaluate registry ctx = pure none ∨ ∃ d values, registry.get? c.name = some d ∧
      d.accept? (c.arguments.map (Argument.resolve? ctx)) = some values ∧
      c.evaluate registry ctx = (do
        let result ← d.invoke values
        return result.filter fun v =>
          !(v.isNull && (c.arguments.map (Argument.resolve? ctx)).any Option.isNone)) := by
  cases hfunction : registry.get? c.name with
  | none => exact .inl (by simp only [evaluate, hfunction])
  | some d =>
    cases henough : d.minArguments.gtNat c.arguments.length with
    | true => exact .inl (by simp only [evaluate, hfunction, henough, if_true])
    | false =>
      cases haccept : d.accept? (c.arguments.map (Argument.resolve? ctx)) with
      | none => exact .inl (by simp only [evaluate, hfunction, henough, haccept, Bool.false_eq_true, if_false])
      | some values => exact .inr ⟨d, values, rfl, haccept, evaluate_of_accepted hfunction henough haccept⟩

/-- What a call gives is normal, whatever the context. -/
theorem Call.isNormal_of_evaluate {c : Call} (h : (c.evaluate registry ctx host).answer = .ok (some v)) :
    v.IsNormal := by
  rcases c.evaluate_cases registry ctx with hrefused | ⟨d, values, -, -, hcall⟩
  · rw [hrefused] at h
    cases h
  · rw [hcall] at h
    cases hinvoke : (d.invoke values host).answer with
    | error fault =>
      rw [Render.bind_of_error hinvoke] at h
      cases h
    | ok result =>
      rw [Render.bind_of_ok hinvoke] at h
      have hresult : result = some v := (Option.filter_eq_some_iff.1 (Except.ok.inj h)).1
      rw [hresult] at hinvoke
      exact Definition.isNormal_of_invoke hinvoke

/-- In a normal context an argument is a literal or has a normal value. -/
theorem Argument.isNormal_of_resolve? (hctx : ctx.IsNormal) {a : Argument} (h : a.resolve? ctx = some v) :
    (∃ l, a = .literal l) ∨ v.IsNormal := by
  cases a with
  | literal l => exact .inl ⟨l, rfl⟩
  | path p => exact .inr (hctx.present? h)

/-- In a normal context an operand is a literal or has a normal value, if it has one. -/
theorem Operand.isNormal_of_evaluate (hctx : ctx.IsNormal) {o : Operand}
    (h : (o.evaluate registry ctx host).answer = .ok (some v)) :
    (∃ l, o = .simple (.literal l)) ∨ v.IsNormal := by
  cases o with
  | simple a =>
    rcases Argument.isNormal_of_resolve? hctx (Except.ok.inj h) with ⟨l, rfl⟩ | hv
    · exact .inl ⟨l, rfl⟩
    · exact .inr hv
  | call c => exact .inr (Call.isNormal_of_evaluate h)

/-- A list that an expression gives in a normal context is normal: it is neither a literal nor a comparison. -/
theorem Expression.isNormal_of_evaluate_list (hctx : ctx.IsNormal) {e : Expression} {items : List (Option Value)}
    (h : (e.evaluate registry ctx host).answer = .ok (some (.list items))) : ∀ v ∈ items.reduceOption, v.IsNormal := by
  rw [← Value.isNormal_list_iff]
  cases e with
  | operand o =>
    rcases Operand.isNormal_of_evaluate hctx h with ⟨l, rfl⟩ | hv
    · cases l <;> cases h
    · exact hv
  | compare c left right =>
    cases hleft : (left.evaluate registry ctx host).answer with
    | error fault =>
      rw [evaluate, Render.bind_of_error hleft] at h
      cases h
    | ok a =>
      rw [evaluate, Render.bind_of_ok hleft] at h
      cases hright : (right.evaluate registry ctx (left.evaluate registry ctx host).host).answer with
      | error fault =>
        simp only [Render.bind_of_error hright] at h
        cases h
      | ok b =>
        simp only [Render.bind_of_ok hright] at h
        cases h

end Evaluation

end BraceTemplate
