import BraceTemplate.Engine
import Mathlib.Data.List.Induction

/-!
# Runs of requests

To the parse cache a request is one of three things: it looks up one source, it clears the cache, or it
leaves the cache alone. What a lookup and a request do to an engine is said here once.

* `lookup_of_find?`, `lookup_of_find?_none`, `lookup_of_disabled` — what a lookup does;
* `engine_handle_of_lookup`, `engine_handle_of_no_lookup` — what a request does to the engine;
* `filter_isEviction_log_handle` — which of its log entries are about the cache.
-/

namespace BraceTemplate

variable {σ : Type}

namespace Request

/-- The source that a request looks up. -/
def lookup? : Request σ → Option Text
  | parse t => some t.toText
  | render t _ => some t.toText
  | names t => some t.toText
  | undeclared t => some t.toText
  | thinking _ t _ => if t.toText.isEmpty then none else some t.toText
  | validate _ => none
  | register .. => none
  | clear => none

/-- Whether a request clears the cache. -/
def isClear : Request σ → Bool
  | clear => true
  | _ => false

/-- The functions after a request, from those before it. -/
def functionsAfter (r : Request σ) (registry : Registry σ) : Registry σ :=
  match r with
  | register name callback minArguments acceptsAbsent =>
    match registry.register name callback minArguments acceptsAbsent with
    | .ok changed => changed
    | .error _ => registry
  | _ => registry

theorem isClear_of_lookup {r : Request σ} {s : Text} (h : r.lookup? = some s) : r.isClear = false := by
  cases r <;> first | rfl | simp [lookup?] at h

end Request

/-- Whether an entry reports that a tree was driven out of the cache. -/
def LogEntry.isEviction (e : LogEntry) : Bool :=
  e.level = .debug && e.message = evictionMessage

namespace LogEntry

@[simp] theorem isEviction_evicted (n : Nat) : (evicted n).isEviction = true := by
  simp [isEviction, evicted]

/-- No function name makes the one message out of the other: they differ in their first unit. -/
@[simp] theorem isEviction_registered (name : Text) : (registered name).isEviction = false := by
  have hmessage : (registered name).message ≠ evictionMessage := by
    intro h
    have hhead := congrArg List.head? h
    revert hhead
    exact of_decide_eq_false rfl
  simp [isEviction, hmessage]

theorem isEviction_of_ofEvent? {event : Event} {e : LogEntry} (h : ofEvent? event = some e) :
    e.isEviction = false := by
  cases event with
  | invoked => simp [ofEvent?] at h
  | failed name message =>
    simp only [ofEvent?, Option.some.injEq] at h
    simp [← h, isEviction]

/-- A render reports failing calls, never an eviction. -/
theorem filter_isEviction_events (events : List Event) :
    (events.filterMap ofEvent?).filter isEviction = [] := by
  rw [List.filter_eq_nil_iff]
  intro e he
  obtain ⟨event, _, hevent⟩ := List.mem_filterMap.1 he
  simp [isEviction_of_ofEvent? hevent]

end LogEntry

namespace ParseCache

theorem mem_of_find? {c : ParseCache} {s : Text} {tree : ParsedTree} (h : c.find? s = some tree) :
    (s, tree) ∈ c.entries := by
  obtain ⟨before, after, hentries, _⟩ := List.lookup_eq_some_iff.1 h
  rw [hentries]
  exact List.mem_append_right _ (List.mem_cons_self ..)

theorem mem_touch {c : ParseCache} {s s' : Text} {t t' : ParsedTree} :
    (s', t') ∈ (c.touch s t).entries ↔
      (s', t') ∈ c.entries ∧ s' ≠ s ∨ s' = s ∧ t' = t := by
  simp [touch]

end ParseCache

namespace Engine

/-- The number of trees that an engine keeps at most. -/
def limit (e : Engine σ) : Nat := e.config.cache.maxEntries.val

/-! ## Lookups -/

section Lookup

variable {e : Engine σ} {s : Text}

/-- A source that is kept becomes the one looked up last. -/
theorem lookup_of_find? {tree : ParsedTree} (hon : e.config.cache.enabled = true)
    (h : e.cache.find? s = some tree) :
    e.lookup s = (tree, { e with cache := e.cache.touch s tree }, []) := by
  simp [lookup, hon, h]

/-- A source that is not kept is parsed anew and drives out the oldest if there is no room. -/
theorem lookup_of_find?_none (hon : e.config.cache.enabled = true) (h : e.cache.find? s = none) :
    e.lookup s =
      let fresh : ParsedTree := ⟨Template.ofSource s, e.parses⟩
      let cache := e.cache.touch s fresh
      if e.limit < cache.size then
        (fresh, { e with parses := e.parses + 1, cache := cache.evict }, [.evicted e.limit])
      else (fresh, { e with parses := e.parses + 1, cache }, []) := by
  simp only [lookup, hon, h, if_true]
  rfl

/-- Without a cache every lookup parses. -/
theorem lookup_of_disabled (hoff : e.config.cache.enabled = false) :
    e.lookup s = (⟨Template.ofSource s, e.parses⟩, { e with parses := e.parses + 1 }, []) := by
  simp [lookup, hoff]

/-- A lookup finds the tree that is kept, or makes the next one. -/
theorem tree_lookup : (e.lookup s).1 =
    (if e.config.cache.enabled then e.cache.find? s else none).getD ⟨Template.ofSource s, e.parses⟩ := by
  cases hon : e.config.cache.enabled with
  | false =>
    rw [lookup_of_disabled hon]
    rfl
  | true =>
    cases hfind : e.cache.find? s with
    | some tree =>
      rw [lookup_of_find? hon hfind]
      rfl
    | none =>
      rw [lookup_of_find?_none hon hfind]
      simp only
      split <;> rfl

/-- A lookup keeps no tree under a source that was not there, but its own. -/
theorem mem_of_mem_lookup {s' : Text} {tree : ParsedTree}
    (h : (s', tree) ∈ (e.lookup s).2.1.cache.entries) :
    (s', tree) ∈ e.cache.entries ∨ s' = s ∧ tree = (e.lookup s).1 := by
  cases hon : e.config.cache.enabled with
  | false =>
    rw [lookup_of_disabled hon] at h
    exact Or.inl h
  | true =>
    cases hfind : e.cache.find? s with
    | some kept =>
      rw [lookup_of_find? hon hfind] at h ⊢
      exact (ParseCache.mem_touch.1 h).imp_left And.left
    | none =>
      rw [lookup_of_find?_none hon hfind] at h ⊢
      simp only at h ⊢
      split at h
      · rename_i hfull
        rw [if_pos hfull]
        exact (ParseCache.mem_touch.1 (List.mem_of_mem_drop h)).imp_left And.left
      · rename_i hroom
        rw [if_neg hroom]
        exact (ParseCache.mem_touch.1 h).imp_left And.left

theorem config_lookup : (e.lookup s).2.1.config = e.config := by
  unfold lookup
  split
  · split
    · rfl
    · simp only
      split <;> rfl
  · rfl

theorem registry_lookup : (e.lookup s).2.1.registry = e.registry := by
  unfold lookup
  split
  · split
    · rfl
    · simp only
      split <;> rfl
  · rfl

end Lookup

/-! ## Requests -/

section Handle

variable {e : Engine σ} {r : Request σ} {host : σ}

theorem render_engine (source : Text) (context : Data) :
    (e.render source context host).engine = (e.lookup source).2.1 := by
  unfold render
  cases Context.create context <;> rfl

/-- Data that give no context stop a render after its lookup. -/
theorem render_of_error {context : Data} {fault : Fault} (h : Context.create context = .error fault)
    (source : Text) (host : σ) : e.render source context host =
      ⟨.error fault, (e.lookup source).2.1, host, (e.lookup source).2.2⟩ := by
  simp only [render, h]

/-- In a context the template that was looked up is rendered with the functions of the engine. -/
theorem render_of_ok {context : Data} {ctx : Context} (h : Context.create context = .ok ctx)
    (source : Text) (host : σ) : e.render source context host =
      let ran := (e.lookup source).1.template.render e.registry ctx host
      ⟨ran.answer, (e.lookup source).2.1, ran.host,
        (e.lookup source).2.2 ++ ran.events.filterMap LogEntry.ofEvent?⟩ := by
  simp only [render, h, registry_lookup]

/-- A request that looks up a source leaves the engine as the lookup leaves it. -/
theorem engine_handle_of_lookup {s : Text} (h : r.lookup? = some s) :
    (e.handle r host).engine = (e.lookup s).2.1 := by
  cases r with
  | parse t => cases h; rfl
  | render t context => cases h; exact render_engine _ _
  | names t => cases h; rfl
  | undeclared t => cases h; rfl
  | thinking opening t context =>
    by_cases hempty : t.toText.isEmpty
    · simp [Request.lookup?, hempty] at h
    · simp only [Request.lookup?, if_neg hempty, Option.some.injEq] at h
      subst h
      simp only [handle, if_neg hempty]
      exact render_engine _ _
  | validate t => simp [Request.lookup?] at h
  | register => simp [Request.lookup?] at h
  | clear => simp [Request.lookup?] at h

/-- A request that looks up nothing leaves the cache as it is, unless it clears it. -/
theorem engine_handle_of_no_lookup (h : r.lookup? = none) :
    (e.handle r host).engine = { e with
      registry := (e.handle r host).engine.registry
      cache := if r.isClear then .empty else e.cache } := by
  cases r with
  | validate t => rfl
  | thinking opening t context =>
    have hempty : t.toText.isEmpty := by
      by_contra hne
      simp [Request.lookup?, hne] at h
    simp only [handle, hempty, if_true]
    rfl
  | register name callback minArguments acceptsAbsent =>
    simp only [handle, Request.isClear, Bool.false_eq_true, if_false]
    split <;> rfl
  | clear => rfl
  | parse t => simp [Request.lookup?] at h
  | render t context => simp [Request.lookup?] at h
  | names t => simp [Request.lookup?] at h
  | undeclared t => simp [Request.lookup?] at h

theorem cache_handle_of_no_lookup (h : r.lookup? = none) :
    (e.handle r host).engine.cache = if r.isClear then .empty else e.cache := by
  rw [engine_handle_of_no_lookup h]

/-- A request changes the functions by registering one, or not at all. -/
theorem registry_handle : (e.handle r host).engine.registry = r.functionsAfter e.registry := by
  have hlookup : ∀ s, r.lookup? = some s → (e.handle r host).engine.registry = e.registry :=
    fun s h => by rw [engine_handle_of_lookup h, registry_lookup]
  cases r with
  | parse t => exact hlookup _ rfl
  | render t context => exact hlookup _ rfl
  | names t => exact hlookup _ rfl
  | undeclared t => exact hlookup _ rfl
  | thinking opening t context =>
    by_cases hempty : t.toText.isEmpty
    · simp only [handle, if_pos hempty, Request.functionsAfter]
    · exact hlookup t.toText (by simp [Request.lookup?, hempty])
  | register name callback minArguments acceptsAbsent =>
    simp only [handle, Request.functionsAfter]
    cases e.registry.register name callback minArguments acceptsAbsent <;> rfl
  | validate t => rfl
  | clear => rfl

theorem config_handle : (e.handle r host).engine.config = e.config := by
  cases h : r.lookup? with
  | none => rw [engine_handle_of_no_lookup h]
  | some s =>
    rw [engine_handle_of_lookup h, config_lookup]

theorem filter_isEviction_log_render (source : Text) (context : Data) :
    (e.render source context host).log.filter LogEntry.isEviction =
      (e.lookup source).2.2.filter LogEntry.isEviction := by
  unfold render
  cases Context.create context with
  | error fault => rfl
  | ok ctx => simp [LogEntry.filter_isEviction_events]

/-- What a request logs about the cache is what its lookup logs. -/
theorem filter_isEviction_log_handle :
    (e.handle r host).log.filter LogEntry.isEviction =
      (r.lookup?.map fun s => (e.lookup s).2.2.filter LogEntry.isEviction).getD [] := by
  cases r with
  | parse t => rfl
  | render t context => exact filter_isEviction_log_render _ _
  | names t => rfl
  | undeclared t => rfl
  | thinking opening t context =>
    by_cases hempty : t.toText.isEmpty
    · simp [handle, Request.lookup?, hempty]
    · simp only [handle, Request.lookup?, if_neg hempty, Option.map_some, Option.getD_some]
      exact filter_isEviction_log_render _ _
  | validate t => rfl
  | register name callback minArguments acceptsAbsent =>
    simp only [handle]
    split <;> simp [Request.lookup?]
  | clear => rfl

end Handle

/-! ## Runs -/

/-- The engine and the host after a request. -/
def step (s : Engine σ × σ) (r : Request σ) : Engine σ × σ :=
  let answered := s.1.handle r s.2
  (answered.engine, answered.host)

/-- The engine and the host after requests, one after another. -/
def after (e : Engine σ) (host : σ) (requests : List (Request σ)) : Engine σ × σ :=
  requests.foldl step (e, host)

theorem after_append_cons (e : Engine σ) (host : σ) (xs ys : List (Request σ)) (r : Request σ) :
    e.after host (xs ++ r :: ys) =
      let answered := (e.after host xs).1.handle r (e.after host xs).2
      answered.engine.after answered.host ys := by
  simp [after, step]

theorem after_concat (e : Engine σ) (host : σ) (xs : List (Request σ)) (r : Request σ) :
    e.after host (xs ++ [r]) = step (e.after host xs) r := by
  simp [after]

theorem config_after (e : Engine σ) (host : σ) (requests : List (Request σ)) :
    (e.after host requests).1.config = e.config := by
  induction requests using List.reverseRecOn with
  | nil => rfl
  | append_singleton requests r ih => rw [after_concat, step, config_handle, ih]

end Engine

end BraceTemplate
