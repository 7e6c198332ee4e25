import BraceTemplate.Proofs.Requests
import BraceTemplate.Proofs.Variables

/-!
# A registry that is shared

One registry is used by several parties: functions are registered at it, engines are made over it, and the engines
answer requests, some of which register functions as well. A function that was registered replaces any other of its
name, a built-in one comes in only under a free name, and no name is ever given up; so the history alone says which
definition a name finds.

* `Registry.get?_install` — what the making of an engine adds;
* `Registry.adopt_registerBuiltins` — the built-in functions lose nothing on their way from a registry of their own;
* `Shared.get?_step` — what one step does to a name;
* `shared_registry_follows_history` — all steps, from an empty registry on.
-/

namespace BraceTemplate

variable {σ : Type}

/-! ## One registry -/

namespace Registry

variable {r : Registry σ} {d : Definition σ} {name : Text}

/-- No name is held twice. -/
def Distinct (r : Registry σ) : Prop :=
  (r.definitions.map Definition.name).Nodup

theorem has_iff : r.has name ↔ name ∈ r.definitions.map Definition.name := by
  simp [has, get?]

theorem distinct_set (h : r.Distinct) : (r.set d).Distinct := by
  unfold Registry.set
  split
  · -- a replaced definition leaves its name behind
    have hnames : (r.definitions.map fun e => if e.name = d.name then d else e).map Definition.name =
        r.definitions.map Definition.name := by
      rw [List.map_map]
      apply List.map_congr_left
      intro e _
      by_cases hname : e.name = d.name
      · simp [hname]
      · simp [hname]
    rw [Distinct, hnames]
    exact h
  · rename_i hfree
    rw [has_iff] at hfree
    rw [Distinct, List.map_append, List.nodup_append]
    refine ⟨h, by simp, ?_⟩
    rintro x hx y hy rfl
    rw [List.map_singleton, List.mem_singleton] at hy
    rw [hy] at hx
    exact hfree hx

/-- A name that is held keeps its definition; a free one gets the first that is given for it. -/
theorem get?_install (r : Registry σ) (definitions : List (Definition σ)) (name : Text) :
    (r.install definitions).get? name = (r.get? name).or (definitions.find? fun d => d.name = name) := by
  induction definitions generalizing r with
  | nil =>
    rw [List.find?_nil, Option.or_none]
    rfl
  | cons d rest ih =>
    rw [install, List.foldl_cons, ← install, ih, List.find?_cons]
    by_cases hname : d.name = name
    · subst hname
      cases hheld : r.get? d.name with
      | none => simp [has, hheld, get?_set]
      | some held => simp [has, hheld]
    · have hother : (if r.has d.name then r else r.set d).get? name = r.get? name := by
        split
        · rfl
        · rw [get?_set, if_neg (Ne.symm hname)]
      simp [hother, hname]

theorem distinct_install (h : r.Distinct) (definitions : List (Definition σ)) :
    (r.install definitions).Distinct := by
  induction definitions generalizing r with
  | nil => exact h
  | cons d rest ih =>
    rw [install, List.foldl_cons]
    apply ih
    split
    · exact h
    · exact distinct_set h

/-- The names that are listed are the names that are held, as many as there are definitions. -/
theorem names_of_distinct (h : r.Distinct) :
    r.names.Pairwise (· < ·) ∧ (∀ name, name ∈ r.names ↔ r.has name) ∧ r.size = r.names.length := by
  have hsorted := Text.pairwise_sortedNames (r.definitions.map Definition.name)
  refine ⟨hsorted, ?_, ?_⟩
  · intro name
    rw [has_iff]
    exact Text.mem_sortedNames
  · have hnodup : r.names.Nodup := Text.nodup_of_ascending hsorted
    have hperm : r.names.Perm (r.definitions.map Definition.name) :=
      (List.perm_ext_iff_of_nodup hnodup h).2 fun name => Text.mem_sortedNames
    rw [hperm.length_eq, List.length_map]
    rfl

/-! ### Functions from another registry -/

/-- Registers the functions of another registry, one after another in the order of their names, each with its own
bound and its own treatment of what is absent; names that are held already are passed over. -/
def adopt (r source : Registry σ) : Except RegistrationError (Registry σ) :=
  source.names.foldlM (fun r name => match source.get? name with
    | some d => if r.has name then .ok r else r.register name d.callback (some d.minArguments) d.acceptsAbsent
    | none => .ok r) r

/-- Definitions of new names are held in the order in which they come. -/
theorem foldl_set_of_nodup (definitions : List (Definition σ)) (h : (definitions.map Definition.name).Nodup)
    (hnew : ∀ d ∈ definitions, ¬ r.has d.name) :
    definitions.foldl Registry.set r = ⟨r.definitions ++ definitions⟩ := by
  induction definitions generalizing r with
  | nil => simp
  | cons d rest ih =>
    rw [List.map_cons, List.nodup_cons] at h
    have hset : r.set d = ⟨r.definitions ++ [d]⟩ := if_neg (hnew d List.mem_cons_self)
    rw [List.foldl_cons, hset, ih h.2]
    · simp
    · intro e he hheld
      rw [has_iff, List.map_append, List.mem_append] at hheld
      rcases hheld with hold | hfirst
      · exact hnew e (List.mem_cons_of_mem _ he) (has_iff.2 hold)
      · apply h.1
        rw [← List.mem_singleton.1 hfirst]
        exact List.mem_map_of_mem he

/-- Definitions in the order of their names, all of which can be called, are adopted as they are. -/
theorem adopt_of_ascending {definitions : List (Definition σ)}
    (hsorted : (definitions.map Definition.name).Pairwise (· < ·))
    (hcallable : ∀ d ∈ definitions, isCallable d.name) (r : Registry σ) :
    r.adopt ⟨definitions⟩ = .ok (r.install definitions) := by
  have hfound : ∀ d ∈ definitions, (⟨definitions⟩ : Registry σ).get? d.name = some d := by
    intro d hd
    have hnodup : definitions.Pairwise fun a b => a.name ≠ b.name :=
      List.pairwise_map.1 (Text.nodup_of_ascending hsorted)
    rcases List.append_of_mem hd with ⟨before, after, rfl⟩
    rw [List.pairwise_append] at hnodup
    have hbefore : before.find? (fun e => decide (e.name = d.name)) = none := by
      rw [List.find?_eq_none]
      intro e he
      simpa using hnodup.2.2 e he d List.mem_cons_self
    simp [get?, List.find?_append, hbefore]
  have hnames : (⟨definitions⟩ : Registry σ).names = definitions.map Definition.name :=
    Text.sortedNames_eq_self hsorted
  rw [adopt, hnames, List.foldlM_map]
  -- the registry that is adopted from stays as it is while its definitions are gone through
  suffices hall : ∀ rest : List (Definition σ), (∀ d ∈ rest, d ∈ definitions) → ∀ r : Registry σ,
      rest.foldlM (fun r d => match (⟨definitions⟩ : Registry σ).get? d.name with
        | some d' => if r.has d.name then .ok r
          else r.register d.name d'.callback (some d'.minArguments) d'.acceptsAbsent
        | none => .ok r) r = Except.ok (ε := RegistrationError) (r.install rest) from
    hall definitions (fun _ hd => hd) r
  intro rest
  induction rest with
  | nil =>
    intro _ r
    rfl
  | cons d rest ih =>
    intro hmem r
    have hd : d ∈ definitions := hmem d List.mem_cons_self
    have hrest := ih fun e he => hmem e (List.mem_cons_of_mem _ he)
    rw [List.foldlM_cons, hfound d hd, install, List.foldl_cons, ← install]
    by_cases hheld : r.has d.name
    · simp only [hheld, if_true]
      exact hrest r
    · have hregister : r.register d.name d.callback (some d.minArguments) d.acceptsAbsent = .ok (r.set d) :=
        if_pos (hcallable d hd)
      simp only [hheld, hregister]
      exact hrest (r.set d)

/-- An engine takes the built-in functions out of a registry that holds nothing else. None of them is refused, and
each keeps its bound and its treatment of what is absent. -/
theorem adopt_registerBuiltins (r : Registry σ) (style : FunctionStyle) (clock : Clock σ) :
    r.adopt (Registry.empty.registerBuiltins style clock) = .ok (r.install (Builtin.definitions style clock)) := by
  have hsorted : ((Builtin.definitions style clock).map Definition.name).Pairwise (· < ·) := by
    simp only [Builtin.definitions, Builtin.plain, List.map_cons, List.map_nil]
    decide +kernel
  have hnodup := Text.nodup_of_ascending hsorted
  have hcallable : ∀ name ∈ (Builtin.definitions style clock).map Definition.name, isCallable name := by
    simp only [Builtin.definitions, Builtin.plain, List.map_cons, List.map_nil]
    decide +kernel
  have hown : Registry.empty.registerBuiltins style clock = ⟨Builtin.definitions style clock⟩ := by
    rw [registerBuiltins, foldl_set_of_nodup _ hnodup fun d _ => by simp [has, get?, Registry.empty]]
    rfl
  rw [hown]
  exact adopt_of_ascending hsorted (fun d hd => hcallable _ (List.mem_map_of_mem hd)) r

end Registry

/-! ## A registry with its engines -/

/-- The built-in functions that an engine of a configuration brings along. -/
def EngineConfig.builtins (c : EngineConfig) (clock : Clock σ) : List (Definition σ) :=
  if c.functions.builtins then Builtin.definitions c.functions.style clock else []

theorem EngineConfig.install_eq (c : EngineConfig) (clock : Clock σ) (r : Registry σ) :
    c.install clock r = r.install (c.builtins clock) := by
  unfold install builtins
  split
  · rfl
  · rfl

/-- A registry and the engines that were made over it, the first one first. An engine has the functions that the
registry holds when the engine is asked. -/
structure Shared (σ : Type) where
  registry : Registry σ
  engines : List (Engine σ)

/-- What the parties do. -/
inductive Sharing (σ : Type) where
  /-- A function is registered at the registry itself. -/
  | register (name : Text) (callback : Callback σ) (minArguments : Option Number) (acceptsAbsent : Bool)
  /-- An engine is made over the registry, of the configuration that data or else the environment describe. -/
  | make (given : Data) (env : Environment) (clock : Clock σ)
  /-- An engine, given by its number, is asked in some state of the host; a request may register a function. -/
  | ask (engine : Nat) (request : Request σ) (host : σ)

namespace Sharing

/-- What became of it. -/
inductive Result (σ : Type) where
  | registered (d : Definition σ)
  | refused (e : RegistrationError)
  | made (config : EngineConfig) (clock : Clock σ)
  | unmade (fault : ConfigurationFault)
  /-- A request that registers nothing was answered, or there is no engine of that number. -/
  | other

namespace Result

/-- What a reply says about functions. -/
def ofReply (request : Request σ) (reply : Reply) : Result σ :=
  match request, reply with
  | .register name callback minArguments acceptsAbsent, .done =>
    registered ⟨name, callback, minArguments.getD (.ofNat callback.arity), acceptsAbsent⟩
  | .register .., .refused e => refused e
  | _, _ => other

/-- Whether a registration or the making of an engine failed. -/
def Fails : Result σ → Prop
  | refused _ => True
  | unmade _ => True
  | _ => False

/-- The definition that was registered. -/
def definition? : Result σ → Option (Definition σ)
  | registered d => some d
  | _ => none

/-- The built-in functions of the engine that was made. -/
def builtins : Result σ → List (Definition σ)
  | made config clock => config.builtins clock
  | _ => []

/-- What a result means for the functions that are held. -/
def apply (r : Registry σ) : Result σ → Registry σ
  | registered d => r.set d
  | made config clock => r.install (config.builtins clock)
  | _ => r

end Result

end Sharing

open Sharing (Result)

namespace Shared

/-- No functions and no engines. -/
def start : Shared σ := ⟨.empty, []⟩

/-- One step, and what became of it. -/
def step (s : Shared σ) : Sharing σ → Shared σ × Result σ
  | .register name callback minArguments acceptsAbsent =>
    match s.registry.register name callback minArguments acceptsAbsent with
    | .ok registry => ({ s with registry },
        .registered ⟨name, callback, minArguments.getD (.ofNat callback.arity), acceptsAbsent⟩)
    | .error e => (s, .refused e)
  | .make given env clock =>
    match EngineConfig.obtain given env with
    | .ok config =>
      let e := Engine.create config clock s.registry
      (⟨e.registry, s.engines ++ [e]⟩, .made config clock)
    | .error fault => (s, .unmade fault)
  | .ask i request host =>
    match s.engines[i]? with
    | some e =>
      let answered := { e with registry := s.registry }.handle request host
      (⟨answered.engine.registry, s.engines.set i answered.engine⟩, .ofReply request answered.answer)
    | none => (s, .other)

/-- All steps from the start on, with all results in order. -/
def run (steps : List (Sharing σ)) : Shared σ × List (Result σ) :=
  steps.foldl (fun (s, results) x => ((s.step x).1, results ++ [(s.step x).2])) (start, [])

theorem run_concat (steps : List (Sharing σ)) (x : Sharing σ) :
    run (steps ++ [x]) = (((run steps).1.step x).1, (run steps).2 ++ [((run steps).1.step x).2]) := by
  rw [run, List.foldl_append]
  rfl

/-- A registration that is not refused sets the definition that it describes. -/
theorem register_eq {r changed : Registry σ} {name : Text} {callback : Callback σ} {minArguments : Option Number}
    {acceptsAbsent : Bool} (h : r.register name callback minArguments acceptsAbsent = .ok changed) :
    changed = r.set ⟨name, callback, minArguments.getD (.ofNat callback.arity), acceptsAbsent⟩ := by
  unfold Registry.register at h
  split at h
  · cases h
    rfl
  · cases h

/-- The functions after a step are those that its result speaks of. -/
theorem registry_step (s : Shared σ) (x : Sharing σ) : (s.step x).1.registry = (s.step x).2.apply s.registry := by
  cases x with
  | register name callback minArguments acceptsAbsent =>
    cases hregister : s.registry.register name callback minArguments acceptsAbsent with
    | ok changed =>
      simp only [step, hregister, Result.apply]
      exact register_eq hregister
    | error e => simp only [step, hregister, Result.apply]
  | make given env clock =>
    cases hconfig : EngineConfig.obtain given env with
    | ok config => simp only [step, hconfig, Result.apply, Engine.create, EngineConfig.install_eq]
    | error fault => simp only [step, hconfig, Result.apply]
  | ask i request host =>
    cases hengine : s.engines[i]? with
    | none => simp only [step, hengine, Result.apply]
    | some e =>
      -- of all requests only a registration changes functions, and it changes those that are held now
      simp only [step, hengine, Engine.registry_handle]
      cases request with
      | register name callback minArguments acceptsAbsent =>
        cases hregister : s.registry.register name callback minArguments acceptsAbsent with
        | ok changed =>
          simp only [Request.functionsAfter, Engine.handle, hregister, Result.ofReply, Result.apply]
          exact register_eq hregister
        | error e => simp only [Request.functionsAfter, Engine.handle, hregister, Result.ofReply, Result.apply]
      | _ => rfl

/-- What a step does to a name: what is registered last counts, and a built-in function only where there is none. -/
theorem get?_step (s : Shared σ) (x : Sharing σ) (name : Text) :
    (s.step x).1.registry.get? name =
      ((((s.step x).2.definition?.toList.find? fun d => d.name = name).or (s.registry.get? name)).or
        ((s.step x).2.builtins.find? fun d => d.name = name)) := by
  rw [registry_step]
  cases (s.step x).2 with
  | registered d =>
    simp only [Result.apply, Result.definition?, Result.builtins, Registry.get?_set, Option.toList_some,
      List.find?_singleton, List.find?_nil, Option.or_none]
    by_cases hname : d.name = name
    · simp [hname]
    · simp [hname, Ne.symm hname]
  | made config clock => exact Registry.get?_install ..
  | refused e => simp [Result.apply, Result.definition?, Result.builtins]
  | unmade fault => simp [Result.apply, Result.definition?, Result.builtins]
  | other => simp [Result.apply, Result.definition?, Result.builtins]

theorem distinct_step {s : Shared σ} (h : s.registry.Distinct) (x : Sharing σ) :
    (s.step x).1.registry.Distinct := by
  rw [registry_step]
  cases (s.step x).2 with
  | registered d => exact Registry.distinct_set h
  | made config clock => exact Registry.distinct_install h _
  | refused e => exact h
  | unmade fault => exact h
  | other => exact h

theorem distinct_run (steps : List (Sharing σ)) : (run steps).1.registry.Distinct := by
  induction steps using List.reverseRecOn with
  | nil => exact List.nodup_nil
  | append_singleton steps x ih =>
    rw [run_concat]
    exact distinct_step ih x

/-- After any steps a name has the definition that was registered last under it, or else the first built-in one that
an engine brought along. -/
theorem get?_run (steps : List (Sharing σ)) (name : Text) :
    (run steps).1.registry.get? name =
      (((run steps).2.filterMap Result.definition?).reverse.find? fun d => d.name = name).or
        (((run steps).2.flatMap Result.builtins).find? fun d => d.name = name) := by
  -- steps are taken off at the end: the last registration comes before all others, the last engine after all others
  induction steps using List.reverseRecOn with
  | nil => rfl
  | append_singleton steps x ih =>
    have hlast : ∀ r : Result σ, ([r].filterMap Result.definition?).reverse = r.definition?.toList := by
      intro r
      cases r with
      | registered d => rfl
      | _ => rfl
    rw [run_concat, get?_step, ih]
    simp only [List.filterMap_append, List.reverse_append, hlast, List.find?_append, List.flatMap_append,
      List.flatMap_singleton, Option.or_assoc]

end Shared

/-- The history of a shared registry says what it holds.

After any steps from an empty registry on, be it that functions are registered at the registry or through engines or that
engines are made, with success or not, a name has the definition that was registered last under it, or else that of the
first engine with built-in functions that was made. The names that are listed are strictly ascending and are those that
are held, as many as the size says. Whatever is done next, nothing changes if it fails, and no name is given up; and an
engine that is made leaves every definition that is held as it is and adds the built-in ones of the names that are free,
each with the bound and the treatment of what is absent that it has in a registry of built-in functions alone. -/
theorem shared_registry_follows_history (steps : List (Sharing σ)) :
    let s := (Shared.run steps).1
    let results := (Shared.run steps).2
    (∀ name, s.registry.get? name =
      ((results.filterMap Result.definition?).reverse.find? fun d => d.name = name).or
        ((results.flatMap Result.builtins).find? fun d => d.name = name)) ∧
    (s.registry.names.Pairwise (· < ·) ∧ (∀ name, name ∈ s.registry.names ↔ s.registry.has name) ∧
      s.registry.size = s.registry.names.length) ∧
    ∀ x, let next := s.step x
      (next.2.Fails → next.1.registry = s.registry) ∧
      (∀ name, s.registry.has name → next.1.registry.has name) ∧
      ∀ config clock, next.2 = .made config clock →
        (∀ name, next.1.registry.get? name =
          (s.registry.get? name).or ((config.builtins clock).find? fun d => d.name = name)) ∧
        (config.functions.builtins = true →
          s.registry.adopt (Registry.empty.registerBuiltins config.functions.style clock) = .ok next.1.registry) := by
  intro s results
  refine ⟨Shared.get?_run steps, Registry.names_of_distinct (Shared.distinct_run steps), ?_⟩
  intro x next
  refine ⟨?_, ?_, ?_⟩
  · intro hfails
    have hregistry : next.1.registry = next.2.apply s.registry := Shared.registry_step s x
    rw [hregistry]
    cases hresult : next.2 with
    | refused e => rfl
    | unmade fault => rfl
    | registered d => simp [hresult, Result.Fails] at hfails
    | made config clock => simp [hresult, Result.Fails] at hfails
    | other => simp [hresult, Result.Fails] at hfails
  · intro name hheld
    have hget : next.1.registry.get? name = _ := Shared.get?_step s x name
    unfold Registry.has at hheld ⊢
    rw [hget, Option.isSome_or, Option.isSome_or, hheld, Bool.or_true, Bool.true_or]
  · intro config clock hmade
    have hregistry : next.1.registry = s.registry.install (config.builtins clock) := by
      rw [show next.1.registry = next.2.apply s.registry from Shared.registry_step s x, hmade]
      rfl
    rw [hregistry]
    refine ⟨Registry.get?_install _ _, ?_⟩
    intro hbuiltins
    rw [Registry.adopt_registerBuiltins, EngineConfig.builtins, if_pos hbuiltins]

end BraceTemplate
