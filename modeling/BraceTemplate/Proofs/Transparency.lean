import BraceTemplate.Proofs.Requests

/-!
# The parse cache does not show

Two engines that differ only in their cache answer every request alike: what a cache holds for a source is the
tree that a parse of the source would give, so a lookup has the same template on both sides. The two are compared
by a relation that each request keeps.

* `render_eq` — a render with a cache is a render without one, but for what the lookup logs;
* `Engine.Alike.handle` — the relation is kept, and the answers are alike;
* `cache_does_not_show` — all requests, from the creation of the engines on.
-/

namespace BraceTemplate

variable {σ : Type}

/-- A reply without the identity of a tree. -/
def Reply.anonymous : Reply → Reply
  | tree t => tree { t with stamp := 0 }
  | r => r

theorem LogEntry.filter_kept (level : LogLevel) (p : LogEntry → Bool) (entries : List LogEntry) :
    (kept level entries).filter p = kept level (entries.filter p) := by
  simp only [kept, List.filter_filter, Bool.and_comm]

/-- Two answers that differ at most in the identity of a tree and in reports of evictions. -/
structure Answered.Alike (a b : Answered σ Reply) : Prop where
  answer_eq : a.answer.anonymous = b.answer.anonymous
  host_eq : a.host = b.host
  log_eq : a.log.filter (!·.isEviction) = b.log.filter (!·.isEviction)

/-- The text of a source in a context, from a parse of its own. -/
def plainRender (registry : Registry σ) (source : Text) (context : Data) : Render σ Text := fun host =>
  match Context.create context with
  | .error fault => ⟨.error fault, host, []⟩
  | .ok ctx => Template.render registry ctx (Template.ofSource source) host

namespace Engine

/-- Every tree in the cache is the one of its source. -/
def Faithful (e : Engine σ) : Prop :=
  ∀ s tree, (s, tree) ∈ e.cache.entries → tree.template = Template.ofSource s

section Lookup

variable {e : Engine σ} {s : Text}

theorem template_lookup (h : e.Faithful) : (e.lookup s).1.template = Template.ofSource s := by
  rw [tree_lookup]
  split
  · cases hfind : e.cache.find? s with
    | some tree => exact h s tree (ParseCache.mem_of_find? hfind)
    | none => rfl
  · rfl

theorem Faithful.lookup (h : e.Faithful) (s : Text) : (e.lookup s).2.1.Faithful := by
  intro s' tree hmem
  rcases mem_of_mem_lookup hmem with hold | ⟨rfl, rfl⟩
  · exact h s' tree hold
  · exact template_lookup h

/-- A lookup logs nothing but evictions. -/
theorem isEviction_of_mem_log_lookup {entry : LogEntry} (h : entry ∈ (e.lookup s).2.2) :
    entry.isEviction = true := by
  unfold Engine.lookup at h
  split at h
  · split at h
    · simp at h
    · simp only at h
      split at h
      · simp only [List.mem_singleton] at h
        rw [h, LogEntry.isEviction_evicted]
      · simp at h
  · simp at h

theorem filter_not_isEviction_log_lookup : (e.lookup s).2.2.filter (!·.isEviction) = [] := by
  rw [List.filter_eq_nil_iff]
  intro entry hentry
  simp [isEviction_of_mem_log_lookup hentry]

/-- A render is one without a cache, with the functions that the engine has then. -/
theorem render_eq (h : e.Faithful) (source : Text) (context : Data) (host : σ) :
    let ran := plainRender e.registry source context host
    e.render source context host = ⟨ran.answer, (e.lookup source).2.1, ran.host,
      (e.lookup source).2.2 ++ ran.events.filterMap LogEntry.ofEvent?⟩ := by
  cases hctx : Context.create context with
  | error fault => simp [plainRender, render_of_error hctx, hctx]
  | ok ctx => simp only [plainRender, render_of_ok hctx, hctx, template_lookup h]

end Lookup

/-- Two engines with the same functions, whatever they keep in their caches. -/
structure Alike (e f : Engine σ) : Prop where
  registry_eq : e.registry = f.registry
  faithful_left : e.Faithful
  faithful_right : f.Faithful

theorem Faithful.handle {e : Engine σ} (h : e.Faithful) (r : Request σ) (host : σ) :
    (e.handle r host).engine.Faithful := by
  intro s tree hmem
  cases hlookup : r.lookup? with
  | some s' =>
    rw [engine_handle_of_lookup hlookup] at hmem
    exact h.lookup s' s tree hmem
  | none =>
    rw [cache_handle_of_no_lookup hlookup] at hmem
    cases hclear : r.isClear with
    | false => exact h s tree (by simpa [hclear] using hmem)
    | true => simp [hclear, ParseCache.empty] at hmem

namespace Alike

variable {e f : Engine σ}

/-- A render shows the same on both sides. -/
theorem render (h : Alike e f) (source : Text) (context : Data) (host : σ) :
    (e.render source context host).answer = (f.render source context host).answer ∧
      (e.render source context host).host = (f.render source context host).host ∧
      (e.render source context host).log.filter (!·.isEviction) =
        (f.render source context host).log.filter (!·.isEviction) := by
  rw [render_eq h.faithful_left, render_eq h.faithful_right, h.registry_eq]
  simp only [List.filter_append, filter_not_isEviction_log_lookup, and_self]

/-- A request is answered alike on both sides. -/
theorem answer (h : Alike e f) (r : Request σ) (host : σ) :
    (e.handle r host).Alike (f.handle r host) := by
  have hnames : ∀ s, (e.names s).1 = (f.names s).1 := fun s => by
    simp only [names, template_lookup h.faithful_left, template_lookup h.faithful_right]
  have hlog : ∀ s, (e.lookup s).2.2.filter (!·.isEviction) = (f.lookup s).2.2.filter (!·.isEviction) :=
    fun s => by rw [filter_not_isEviction_log_lookup, filter_not_isEviction_log_lookup]
  cases r with
  | parse t =>
    refine ⟨?_, rfl, hlog t.toText⟩
    simp only [handle, Reply.anonymous, template_lookup h.faithful_left,
      template_lookup h.faithful_right]
  | render t context =>
    obtain ⟨hanswer, hhost, hlog⟩ := h.render t.toText context host
    exact ⟨by simp only [handle, hanswer], hhost, hlog⟩
  | validate t => exact ⟨rfl, rfl, rfl⟩
  | names t =>
    refine ⟨?_, rfl, hlog t.toText⟩
    simp only [handle, hnames]
  | undeclared t =>
    refine ⟨?_, rfl, hlog t.toText⟩
    simp only [handle, hnames]
  | thinking opening t context =>
    by_cases hempty : t.toText.isEmpty
    · simp only [handle, if_pos hempty]
      exact ⟨rfl, rfl, rfl⟩
    · obtain ⟨hanswer, hhost, hlog⟩ := h.render t.toText context host
      simp only [handle, if_neg hempty]
      exact ⟨by simp only [hanswer], hhost, hlog⟩
  | register name callback minArguments acceptsAbsent =>
    simp only [handle, h.registry_eq]
    split <;> exact ⟨rfl, rfl, rfl⟩
  | clear => exact ⟨rfl, rfl, rfl⟩

/-- A request leaves the same functions on both sides. -/
theorem handle (h : Alike e f) (r : Request σ) (host : σ) :
    Alike (e.handle r host).engine (f.handle r host).engine := by
  refine ⟨?_, h.faithful_left.handle r host, h.faithful_right.handle r host⟩
  rw [registry_handle, registry_handle, h.registry_eq]

/-- Requests leave the same functions and the same host on both sides. -/
theorem after (h : Alike e f) (host : σ) (requests : List (Request σ)) :
    Alike (e.after host requests).1 (f.after host requests).1 ∧
      (e.after host requests).2 = (f.after host requests).2 := by
  induction requests using List.reverseRecOn with
  | nil => exact ⟨h, rfl⟩
  | append_singleton requests r ih =>
    obtain ⟨halike, hhost⟩ := ih
    rw [after_concat, after_concat, step, step, ← hhost]
    exact ⟨halike.handle r _, (halike.answer r _).host_eq⟩

end Alike

end Engine

theorem Engine.alike_create (c d : CacheSettings) (functions : FunctionSettings) (clock : Clock σ)
    (registry : Registry σ) :
    Alike (create ⟨c, functions⟩ clock registry) (create ⟨d, functions⟩ clock registry) := by
  have hempty : ∀ cache, (create ⟨cache, functions⟩ clock registry).Faithful := by
    intro cache s tree hmem
    simp [create, ParseCache.empty] at hmem
  exact ⟨rfl, hempty c, hempty d⟩

/-- The settings of the cache do not show in any answer.

After any requests, two engines made with the same functions and clock answer a request alike, whatever the settings
of their caches: with the same reply or the same error, the same state of the host, and at every level the same
entries in the log but for evictions. Of a tree that is asked for, only its identity may differ. In particular, a
function that is registered, or that replaces one, is called by the very next render of any template, also of one in the
cache: that render is a new parse of the source, rendered with the new function. -/
theorem cache_does_not_show (c d : CacheSettings) (functions : FunctionSettings) (clock : Clock σ)
    (registry : Registry σ) (host : σ) (requests : List (Request σ)) :
    let before := fun cache : CacheSettings =>
      (Engine.create ⟨cache, functions⟩ clock registry).after host requests
    (∀ r, let answered := fun cache => (before cache).1.handle r (before cache).2
      (answered c).answer.anonymous = (answered d).answer.anonymous ∧
      (answered c).host = (answered d).host ∧
      ∀ level, (LogEntry.kept level (answered c).log).filter (!·.isEviction) =
        (LogEntry.kept level (answered d).log).filter (!·.isEviction)) ∧
    ∀ name callback minArguments acceptsAbsent changed,
      (before c).1.registry.register name callback minArguments acceptsAbsent = .ok changed →
      let registered := (before c).1.handle (.register name callback minArguments acceptsAbsent) (before c).2
      changed.get? name =
        some ⟨name, callback, minArguments.getD (.ofNat callback.arity), acceptsAbsent⟩ ∧
      ∀ source context now,
        (registered.engine.render source context now).answer =
          (plainRender changed source context now).answer := by
  intro before
  have hcreate := Engine.alike_create c d functions clock registry
  obtain ⟨halike, hhost⟩ := hcreate.after host requests
  refine ⟨fun r => ?_, fun name callback minArguments acceptsAbsent changed hchanged => ?_⟩
  · have hanswered : ((before c).1.handle r (before c).2).Alike ((before d).1.handle r (before d).2) := by
      rw [← show (before c).2 = (before d).2 from hhost]
      exact halike.answer r _
    refine ⟨hanswered.answer_eq, hanswered.host_eq, fun level => ?_⟩
    rw [LogEntry.filter_kept, LogEntry.filter_kept, hanswered.log_eq]
  · have hfunctions : ((before c).1.handle (.register name callback minArguments acceptsAbsent)
        (before c).2).engine.registry = changed := by
      rw [Engine.registry_handle, Request.functionsAfter, hchanged]
    refine ⟨Registry.get?_of_register hchanged, fun source context now => ?_⟩
    rw [Engine.render_eq (halike.faithful_left.handle _ _), hfunctions]

end BraceTemplate
