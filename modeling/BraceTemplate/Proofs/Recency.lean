import BraceTemplate.Proofs.Requests
import Mathlib.Data.List.Dedup
import Mathlib.Data.List.DropRight

/-!
# The parse cache keeps the latest lookups

An engine with a cache for `n` trees holds, after any requests, the trees of the `n` sources that were
looked up last, each source once and in order of its last lookup. `List.dedup` keeps the last of equal
items, so the sources in this order are `(lookups requests).dedup`, and the last `n` of them are its `rtake n`.

* `sources_after` — the sources in the cache after requests;
* `mem_latest_iff` — when a source is still among them;
* `lookup_again` — a later lookup finds the tree of an earlier one or parses anew;
* `cache_keeps_latest` — all of it for an engine from its creation on.
-/

namespace BraceTemplate

variable {σ : Type}

/-! ## Lists without repetition -/

section Lists

variable {α : Type}

/-- An item is among the last `n` exactly if fewer than `n` stand after it. -/
theorem mem_rtake_iff {l before after : List α} {a : α} {n : Nat} (hl : l = before ++ a :: after)
    (h : l.Nodup) : a ∈ l.rtake n ↔ after.length < n := by
  have hafter : a ∉ after := by
    rw [hl] at h
    exact (List.nodup_cons.1 h.of_append_right).1
  have hlen : l.length = before.length + (after.length + 1) := by simp [hl]
  rw [List.rtake]
  constructor
  · intro hmem
    by_contra hle
    -- all of `before` is dropped, and `a` after it
    obtain ⟨k, hk⟩ : ∃ k, l.length - n - before.length = k + 1 := ⟨_, (Nat.succ_pred (by omega)).symm⟩
    have hdrop : l.drop (l.length - n) = after.drop k := by
      rw [hl] at hk ⊢
      rw [List.drop_append, List.drop_eq_nil_of_le (by omega), hk]
      rfl
    rw [hdrop] at hmem
    exact hafter (List.mem_of_mem_drop hmem)
  · intro hlt
    rw [hl, List.drop_append_of_le_length (by simp; omega)]
    simp

variable [BEq α] [LawfulBEq α]

/-- What is left of the first `n + 1` items without one of them still begins with the first `n` of all items
without it. -/
theorem take_filter_take {l : List α} (h : l.Nodup) (a : α) (n : Nat) :
    ((l.take (n + 1)).filter (· != a)).take n = (l.filter (· != a)).take n := by
  induction l generalizing n with
  | nil => simp
  | cons x l ih =>
    obtain ⟨hx, hl⟩ := List.nodup_cons.1 h
    by_cases hxa : x = a
    · -- `a` is the first item, so no other is left out
      subst hxa
      have hrest : l.filter (· != x) = l :=
        List.filter_eq_self.2 fun y hy => by simpa using fun hyx : y = x => hx (hyx ▸ hy)
      have htake : (l.take n).filter (· != x) = l.take n :=
        List.filter_eq_self.2 fun y hy => by
          simpa using fun hyx : y = x => hx (hyx ▸ List.mem_of_mem_take hy)
      simp [hrest, htake, List.take_take]
    · cases n with
      | zero => simp
      | succ n => simp [hxa, ih hl n]

theorem rtake_filter_rtake {l : List α} (h : l.Nodup) (a : α) (n : Nat) :
    ((l.rtake (n + 1)).filter (· != a)).rtake n = (l.filter (· != a)).rtake n := by
  simp only [List.rtake_eq_reverse_take_reverse, ← List.filter_reverse, List.reverse_reverse]
  rw [take_filter_take (List.nodup_reverse.2 h)]

/-- One more item moves to the end. -/
theorem dedup_concat [DecidableEq α] (l : List α) (a : α) :
    (l ++ [a]).dedup = l.dedup.filter (· != a) ++ [a] := by
  induction l with
  | nil => simp
  | cons x l ih =>
    by_cases hx : x ∈ l
    · rw [List.cons_append, List.dedup_cons_of_mem (List.mem_append_left _ hx),
        List.dedup_cons_of_mem hx, ih]
    · rw [List.cons_append, List.dedup_cons_of_notMem hx]
      by_cases hxa : x = a
      · subst hxa
        rw [List.dedup_cons_of_mem (by simp), ih]
        simp
      · rw [List.dedup_cons_of_notMem (by simp [hx, hxa]), ih]
        simp [hxa]

end Lists

/-! ## What is looked up -/

/-- The sources that requests look up after the last time they clear the cache, in order. -/
def lookups (requests : List (Request σ)) : List Text :=
  requests.foldl (fun seen r => if r.isClear then [] else seen ++ r.lookup?.toList) []

theorem lookups_concat (requests : List (Request σ)) (r : Request σ) :
    lookups (requests ++ [r]) = if r.isClear then [] else lookups requests ++ r.lookup?.toList := by
  simp [lookups]

theorem exists_lookup_of_mem_lookups {requests : List (Request σ)} {s : Text}
    (h : s ∈ lookups requests) : ∃ r ∈ requests, r.lookup? = some s := by
  induction requests using List.reverseRecOn with
  | nil => simp [lookups] at h
  | append_singleton requests r ih =>
    rw [lookups_concat] at h
    split at h
    · simp at h
    · rcases List.mem_append.1 h with h | h
      · obtain ⟨r', hr', hs⟩ := ih h
        exact ⟨r', List.mem_append_left _ hr', hs⟩
      · exact ⟨r, by simp, by simpa using h⟩

/-- Without a clearing between, the later lookups come after the earlier ones. -/
theorem lookups_append {xs ys : List (Request σ)} (h : ∀ r ∈ ys, r.isClear = false) :
    lookups (xs ++ ys) = lookups xs ++ ys.filterMap Request.lookup? := by
  induction ys using List.reverseRecOn with
  | nil => simp
  | append_singleton ys r ih =>
    have hr := h r (by simp)
    have hys := ih fun r' hr' => h r' (List.mem_append_left _ hr')
    rw [← List.append_assoc, lookups_concat, hys]
    cases hlookup : r.lookup? <;> simp [hr, hlookup]

/-- After a clearing, what was looked up before it is forgotten. -/
theorem lookups_append_of_clear {xs ys : List (Request σ)} (h : ∃ r ∈ ys, r.isClear = true) :
    lookups (xs ++ ys) = lookups ys := by
  induction ys using List.reverseRecOn with
  | nil => simp at h
  | append_singleton ys r ih =>
    rw [← List.append_assoc, lookups_concat, lookups_concat]
    by_cases hr : r.isClear = true
    · simp [hr]
    · obtain ⟨r', hr', hclear⟩ := h
      have hys : r' ∈ ys := by
        rcases List.mem_append.1 hr' with hr' | hr'
        · exact hr'
        · simp only [List.mem_singleton] at hr'
          exact absurd (hr' ▸ hclear) hr
      rw [ih ⟨r', hys, hclear⟩]

/-- A source is still among the last `n` exactly if the cache was not cleared and fewer than `n` others were
looked up since. -/
theorem mem_latest_iff {before between : List (Request σ)} {first : Request σ} {s : Text} (n : Nat)
    (hfirst : first.lookup? = some s) (hbetween : ∀ r ∈ between, r.lookup? ≠ some s) :
    s ∈ (lookups (before ++ first :: between)).dedup.rtake n ↔
      (∀ r ∈ between, r.isClear = false) ∧ (between.filterMap Request.lookup?).dedup.length < n := by
  have hsplit : before ++ first :: between = (before ++ [first]) ++ between := by simp
  by_cases hclear : ∀ r ∈ between, r.isClear = false
  · have hlater : s ∉ between.filterMap Request.lookup? := by
      intro hs
      obtain ⟨r, hr, hlookup⟩ := List.mem_filterMap.1 hs
      exact hbetween r hr hlookup
    have hlookups : lookups (before ++ first :: between) =
        lookups before ++ s :: between.filterMap Request.lookup? := by
      rw [hsplit, lookups_append hclear, lookups_concat, Request.isClear_of_lookup hfirst, hfirst]
      simp
    -- the distinct sources end with `s` and those looked up after it
    obtain ⟨others, hothers⟩ :=
      List.suffix_union_right (lookups before) (s :: (between.filterMap Request.lookup?).dedup)
    have hdedup : (lookups (before ++ first :: between)).dedup =
        others ++ s :: (between.filterMap Request.lookup?).dedup := by
      rw [hlookups, List.dedup_append, List.dedup_cons_of_notMem hlater, hothers]
    rw [mem_rtake_iff hdedup (List.nodup_dedup _)]
    exact ⟨fun h => ⟨hclear, h⟩, fun h => h.2⟩
  · have hsome : ∃ r ∈ between, r.isClear = true := by simpa using hclear
    refine iff_of_false (fun hs => ?_) fun h => hclear h.1
    have hmem := List.mem_dedup.1 (List.mem_of_mem_drop hs)
    rw [hsplit, lookups_append_of_clear hsome] at hmem
    obtain ⟨r, hr, hlookup⟩ := exists_lookup_of_mem_lookups hmem
    exact hbetween r hr hlookup

/-! ## The cache under lookups -/

namespace ParseCache

theorem mem_sources {c : ParseCache} {s : Text} : s ∈ c.sources ↔ ∃ tree, (s, tree) ∈ c.entries := by
  simp [sources]

theorem find?_eq_none_iff {c : ParseCache} {s : Text} : c.find? s = none ↔ s ∉ c.sources := by
  simp only [find?, List.lookup_eq_none_iff, sources, List.mem_map, bne_iff_ne, ne_eq, not_exists,
    not_and]
  exact forall_congr' fun entry => forall_congr' fun _ => not_congr eq_comm

/-- A source that is held once has one tree. -/
theorem eq_of_mem {c : ParseCache} {s : Text} {t u : ParsedTree} (h : c.sources.Nodup)
    (ht : (s, t) ∈ c.entries) (hu : (s, u) ∈ c.entries) : t = u :=
  (Prod.mk.inj (List.inj_on_of_nodup_map h ht hu rfl)).2

@[simp] theorem sources_touch (c : ParseCache) (s : Text) (tree : ParsedTree) :
    (c.touch s tree).sources = c.sources.filter (· != s) ++ [s] := by
  simp [touch, sources, List.filter_map, Function.comp_def]

@[simp] theorem sources_evict (c : ParseCache) : c.evict.sources = c.sources.drop 1 := by
  simp [evict, sources]

theorem length_sources (c : ParseCache) : c.sources.length = c.size := by
  simp [sources, size]

end ParseCache

namespace Engine

/-- What an engine with a cache keeps to: every source is held once, there are not more than the limit, and
the trees were made before the next one. -/
structure InOrder (e : Engine σ) : Prop where
  enabled : e.config.cache.enabled = true
  nodup : e.cache.sources.Nodup
  size_le : e.cache.size ≤ e.limit
  stamp_lt : ∀ s tree, (s, tree) ∈ e.cache.entries → tree.stamp < e.parses

section Lookup

variable {e : Engine σ} {s : Text}

/-- The source that is looked up goes to the end, and the last ones remain. -/
theorem sources_lookup (h : e.InOrder) :
    (e.lookup s).2.1.cache.sources = (e.cache.sources.filter (· != s) ++ [s]).rtake e.limit := by
  have hsize := h.size_le
  rw [← ParseCache.length_sources] at hsize
  cases hfind : e.cache.find? s with
  | some tree =>
    rw [lookup_of_find? h.enabled hfind, ParseCache.sources_touch]
    have hmem : s ∈ e.cache.sources :=
      ParseCache.mem_sources.2 ⟨tree, ParseCache.mem_of_find? hfind⟩
    have hless : (e.cache.sources.filter (· != s)).length < e.cache.sources.length :=
      List.length_filter_lt_length_iff_exists.2 ⟨s, hmem, by simp⟩
    rw [List.rtake, List.length_append, List.length_singleton,
      Nat.sub_eq_zero_of_le (by omega), List.drop_zero]
  | none =>
    rw [lookup_of_find?_none h.enabled hfind]
    have hlength := List.length_filter_le (· != s) e.cache.sources
    simp only
    split
    · rename_i hfull
      rw [← ParseCache.length_sources, ParseCache.sources_touch, List.length_append,
        List.length_singleton] at hfull
      rw [ParseCache.sources_evict, ParseCache.sources_touch, List.rtake, List.length_append,
        List.length_singleton]
      congr 1
      omega
    · rename_i hroom
      rw [← ParseCache.length_sources, ParseCache.sources_touch, List.length_append,
        List.length_singleton] at hroom
      rw [ParseCache.sources_touch, List.rtake, List.length_append, List.length_singleton,
        Nat.sub_eq_zero_of_le (by omega), List.drop_zero]

/-- A lookup drives a tree out exactly if it finds none and there is no room. -/
theorem log_lookup (h : e.InOrder) :
    (e.lookup s).2.2 =
      if s ∉ e.cache.sources ∧ e.cache.size = e.limit then [.evicted e.limit] else [] := by
  have hsize := h.size_le
  cases hfind : e.cache.find? s with
  | some tree =>
    have hmem : s ∈ e.cache.sources :=
      ParseCache.mem_sources.2 ⟨tree, ParseCache.mem_of_find? hfind⟩
    rw [lookup_of_find? h.enabled hfind, if_neg fun hmiss => hmiss.1 hmem]
  | none =>
    have hmem : s ∉ e.cache.sources := ParseCache.find?_eq_none_iff.1 hfind
    have htouch : ∀ tree, (e.cache.touch s tree).size = e.cache.size + 1 := by
      intro tree
      have hfilter : e.cache.sources.filter (· != s) = e.cache.sources :=
        List.filter_eq_self.2 fun s' hs' => by simpa using fun heq : s' = s => hmem (heq ▸ hs')
      rw [← ParseCache.length_sources, ParseCache.sources_touch, hfilter, List.length_append,
        ParseCache.length_sources, List.length_singleton]
    rw [lookup_of_find?_none h.enabled hfind]
    simp only [htouch]
    by_cases hfull : e.cache.size = e.limit
    · rw [if_pos (by omega), if_pos ⟨hmem, hfull⟩]
    · rw [if_neg (by omega), if_neg fun hmiss => hfull hmiss.2]

/-- The tree of a lookup is one that is kept, or the next to be made. -/
theorem lookup_tree (hon : e.config.cache.enabled = true) :
    ((s, (e.lookup s).1) ∈ e.cache.entries ∧ (e.lookup s).2.1.parses = e.parses) ∨
      (s ∉ e.cache.sources ∧ (e.lookup s).1.stamp = e.parses ∧
        (e.lookup s).2.1.parses = e.parses + 1) := by
  cases hfind : e.cache.find? s with
  | some tree =>
    rw [lookup_of_find? hon hfind]
    exact Or.inl ⟨ParseCache.mem_of_find? hfind, rfl⟩
  | none =>
    refine Or.inr ⟨ParseCache.find?_eq_none_iff.1 hfind, ?_⟩
    rw [lookup_of_find?_none hon hfind]
    simp only
    split <;> exact ⟨rfl, rfl⟩

/-- The tree of a lookup was made before the next one. -/
theorem stamp_lookup_lt (h : e.InOrder) : (e.lookup s).1.stamp < (e.lookup s).2.1.parses := by
  rcases lookup_tree h.enabled (s := s) with ⟨hmem, hparses⟩ | ⟨_, hstamp, hparses⟩
  · rw [hparses]
    exact h.stamp_lt s _ hmem
  · omega

theorem parses_le_lookup (hon : e.config.cache.enabled = true) :
    e.parses ≤ (e.lookup s).2.1.parses := by
  rcases lookup_tree hon (s := s) with ⟨_, hparses⟩ | ⟨_, _, hparses⟩ <;> omega

theorem InOrder.lookup (h : e.InOrder) (s : Text) : (e.lookup s).2.1.InOrder := by
  have hlimit : (e.lookup s).2.1.limit = e.limit := by rw [limit, config_lookup, limit]
  refine ⟨config_lookup (e := e) ▸ h.enabled, ?_, ?_, ?_⟩
  · rw [sources_lookup h]
    refine List.Nodup.sublist (List.drop_sublist _ _) ?_
    refine List.nodup_append.2 ⟨h.nodup.filter _, List.nodup_singleton s, ?_⟩
    intro a ha b hb
    rw [List.mem_singleton] at hb
    simpa [hb] using (List.mem_filter.1 ha).2
  · rw [← ParseCache.length_sources, sources_lookup h, hlimit, List.rtake, List.length_drop]
    omega
  · intro s' tree hmem
    rcases mem_of_mem_lookup hmem with hold | ⟨_, rfl⟩
    · exact Nat.lt_of_lt_of_le (h.stamp_lt s' tree hold) (parses_le_lookup h.enabled)
    · exact stamp_lookup_lt h

/-- The source that was looked up last is kept, with the tree that was found. -/
theorem mem_lookup (h : e.InOrder) : (s, (e.lookup s).1) ∈ (e.lookup s).2.1.cache.entries := by
  obtain ⟨m, hm⟩ : ∃ m, e.limit = m + 1 := ⟨_, (Nat.succ_pred e.config.cache.maxEntries.2.ne').symm⟩
  have hsource : s ∈ (e.lookup s).2.1.cache.sources := by
    rw [sources_lookup h, hm, List.rtake_concat_succ]
    simp
  obtain ⟨tree, htree⟩ := ParseCache.mem_sources.1 hsource
  rcases mem_of_mem_lookup htree with hold | ⟨_, rfl⟩
  · rcases lookup_tree h.enabled (s := s) with ⟨hkept, _⟩ | ⟨hnew, _⟩
    · rwa [ParseCache.eq_of_mem h.nodup hkept hold]
    · exact absurd (ParseCache.mem_sources.2 ⟨tree, hold⟩) hnew
  · exact htree

end Lookup

/-! ## The cache under requests -/

section Requests

variable {e : Engine σ} {host : σ}

theorem InOrder.handle (h : e.InOrder) (r : Request σ) : (e.handle r host).engine.InOrder := by
  cases hlookup : r.lookup? with
  | some s =>
    rw [engine_handle_of_lookup hlookup]
    exact h.lookup s
  | none =>
    rw [engine_handle_of_no_lookup hlookup]
    cases r.isClear with
    | false => exact ⟨h.enabled, h.nodup, h.size_le, h.stamp_lt⟩
    | true =>
      refine ⟨h.enabled, List.nodup_nil, Nat.zero_le _, ?_⟩
      intro s tree hmem
      simp [ParseCache.empty] at hmem

theorem parses_le_handle (hon : e.config.cache.enabled = true) (r : Request σ) :
    e.parses ≤ (e.handle r host).engine.parses := by
  cases hlookup : r.lookup? with
  | some s =>
    rw [engine_handle_of_lookup hlookup]
    exact parses_le_lookup hon
  | none => rw [engine_handle_of_no_lookup hlookup]

/-- A request that does not look up a source keeps no other tree for it. -/
theorem mem_of_mem_handle {r : Request σ} {s : Text}
    {tree : ParsedTree} (hr : r.lookup? ≠ some s)
    (h : (s, tree) ∈ (e.handle r host).engine.cache.entries) : (s, tree) ∈ e.cache.entries := by
  cases hlookup : r.lookup? with
  | some s' =>
    rw [engine_handle_of_lookup hlookup] at h
    rcases mem_of_mem_lookup h with hold | ⟨hs, _⟩
    · exact hold
    · exact absurd (hs ▸ hlookup) hr
  | none =>
    rw [engine_handle_of_no_lookup hlookup] at h
    cases hclear : r.isClear with
    | false => simpa [hclear] using h
    | true => simp [hclear, ParseCache.empty] at h

theorem InOrder.after (h : e.InOrder) (host : σ) (requests : List (Request σ)) :
    (e.after host requests).1.InOrder := by
  induction requests using List.reverseRecOn with
  | nil => exact h
  | append_singleton requests r ih =>
    rw [after_concat]
    exact ih.handle r

theorem parses_le_after (h : e.InOrder) (host : σ) (requests : List (Request σ)) :
    e.parses ≤ (e.after host requests).1.parses := by
  induction requests using List.reverseRecOn with
  | nil => exact Nat.le_refl _
  | append_singleton requests r ih =>
    rw [after_concat]
    exact ih.trans (parses_le_handle (h.after host requests).enabled r)

theorem mem_of_mem_after {requests : List (Request σ)} {s : Text} {tree : ParsedTree}
    (hrequests : ∀ r ∈ requests, r.lookup? ≠ some s)
    (hmem : (s, tree) ∈ (e.after host requests).1.cache.entries) : (s, tree) ∈ e.cache.entries := by
  induction requests using List.reverseRecOn with
  | nil => exact hmem
  | append_singleton requests r ih =>
    rw [after_concat] at hmem
    have hbefore := mem_of_mem_handle (hrequests r (by simp)) hmem
    exact ih (fun r' hr' => hrequests r' (List.mem_append_left _ hr')) hbefore

/-- After requests to an engine with nothing in its cache, the cache holds the sources that were looked up
last. The induction is on the last request, and the lists of both sides change there in the same way. -/
theorem sources_after (h : e.InOrder) (hempty : e.cache.sources = []) (requests : List (Request σ)) :
    (e.after host requests).1.cache.sources = (lookups requests).dedup.rtake e.limit := by
  induction requests using List.reverseRecOn with
  | nil => simpa [lookups, after] using hempty
  | append_singleton requests r ih =>
    have horder := h.after host requests
    have hlimit : (e.after host requests).1.limit = e.limit := by rw [limit, config_after, limit]
    obtain ⟨m, hm⟩ : ∃ m, e.limit = m + 1 :=
      ⟨_, (Nat.succ_pred e.config.cache.maxEntries.2.ne').symm⟩
    rw [after_concat, lookups_concat]
    cases hlookup : r.lookup? with
    | some s =>
      simp only [step, engine_handle_of_lookup hlookup]
      rw [sources_lookup horder, ih, Request.isClear_of_lookup hlookup, hlimit, hm]
      simp only [Bool.false_eq_true, if_false, Option.toList_some, dedup_concat,
        List.rtake_concat_succ, rtake_filter_rtake (List.nodup_dedup _)]
    | none =>
      simp only [step, cache_handle_of_no_lookup hlookup]
      cases r.isClear with
      | false => simpa using ih
      | true => simp [ParseCache.empty, ParseCache.sources]

/-- Between two lookups of a source the others decide whether the second finds the tree of the first: it
does if the source is still in the cache, and otherwise it makes a new one. -/
theorem lookup_again (h : e.InOrder) {requests : List (Request σ)} {s : Text}
    (hrequests : ∀ r ∈ requests, r.lookup? ≠ some s) :
    (((e.lookup s).2.1.after host requests).1.lookup s).1 = (e.lookup s).1 ↔
      s ∈ ((e.lookup s).2.1.after host requests).1.cache.sources := by
  have hfirst := h.lookup s
  have hlater := hfirst.after host requests
  have hkept := mem_lookup h (s := s)
  rcases lookup_tree hlater.enabled (s := s) with ⟨hmem, _⟩ | ⟨hnew, hstamp, _⟩
  · have hold := mem_of_mem_after hrequests hmem
    exact iff_of_true (ParseCache.eq_of_mem hfirst.nodup hold hkept)
      (ParseCache.mem_sources.2 ⟨_, hmem⟩)
  · refine iff_of_false (fun heq => ?_) hnew
    have hparses := parses_le_after hfirst host requests
    have hlt := stamp_lookup_lt h (s := s)
    rw [heq] at hstamp
    omega

end Requests

end Engine

/-! ## An engine from its creation on -/

theorem Engine.inOrder_create (limit : { n : Nat // 0 < n }) (functions : FunctionSettings)
    (clock : Clock σ) (registry : Registry σ) :
    (create ⟨⟨true, limit⟩, functions⟩ clock registry).InOrder := by
  refine ⟨rfl, List.nodup_nil, Nat.zero_le _, fun s tree hmem => ?_⟩
  simp [create, ParseCache.empty] at hmem

/-- The cache of an engine keeps the sources that were looked up last.

After any requests it holds as many of the distinct sources looked up since the last clearing as the limit
allows, those looked up last, in order of their last lookup. One eviction is logged on a lookup that finds
nothing while the cache is full, and none on any other request; a request that is neither a lookup nor a clearing
leaves the cache alone. And a lookup gets the tree of the last lookup of its source, the very tree with its stamp,
exactly if the cache was not cleared and fewer other sources than the limit were looked up since. -/
theorem cache_keeps_latest (limit : { n : Nat // 0 < n }) (functions : FunctionSettings)
    (clock : Clock σ) (registry : Registry σ) (host : σ) :
    let engine := fun requests : List (Request σ) =>
      ((Engine.create ⟨⟨true, limit⟩, functions⟩ clock registry).after host requests).1
    (∀ requests,
      (engine requests).cache.sources = (lookups requests).dedup.rtake limit ∧
      (engine requests).cache.size = min limit.val (lookups requests).dedup.length) ∧
    (∀ requests r now, ((engine requests).handle r now).log.filter LogEntry.isEviction =
      match r.lookup? with
      | some s =>
        if s ∉ (engine requests).cache.sources ∧ (engine requests).cache.size = limit then
          [.evicted limit]
        else []
      | none => []) ∧
    (∀ requests r now, r.lookup? = none → r.isClear = false →
      ((engine requests).handle r now).engine.cache = (engine requests).cache) ∧
    ∀ before first between s, first.lookup? = some s → (∀ r ∈ between, r.lookup? ≠ some s) →
      (((engine (before ++ first :: between)).lookup s).1 = ((engine before).lookup s).1 ↔
        (∀ r ∈ between, r.isClear = false) ∧
          (between.filterMap Request.lookup?).dedup.length < limit) := by
  intro engine
  have hcreate := Engine.inOrder_create limit functions clock registry
  have horder : ∀ requests, (engine requests).InOrder := fun requests => hcreate.after host requests
  have hlimit : ∀ requests, (engine requests).limit = limit := fun requests => by
    rw [Engine.limit, Engine.config_after]
    rfl
  have hsources : ∀ requests,
      (engine requests).cache.sources = (lookups requests).dedup.rtake limit :=
    Engine.sources_after hcreate rfl
  refine ⟨fun requests => ⟨hsources requests, ?_⟩, fun requests r now => ?_,
    fun requests r now hr hclear => ?_, fun before first between s hfirst hbetween => ?_⟩
  · rw [← ParseCache.length_sources, hsources, List.rtake, List.length_drop]
    omega
  · rw [Engine.filter_isEviction_log_handle]
    cases r.lookup? with
    | none => rfl
    | some s =>
      simp only [Option.map_some, Option.getD_some, Engine.log_lookup (horder requests), hlimit]
      split <;> simp
  · rw [Engine.cache_handle_of_no_lookup hr, if_neg (by simp [hclear])]
  · -- the engine after `first` is the one that the lookup of `s` leaves, whatever else `first` does
    obtain ⟨now, hrun⟩ : ∃ now, engine (before ++ first :: between) =
        (((engine before).lookup s).2.1.after now between).1 := by
      simp only [engine, Engine.after_append_cons, Engine.engine_handle_of_lookup hfirst]
      exact ⟨_, rfl⟩
    rw [← mem_latest_iff limit hfirst hbetween, ← hsources, hrun]
    exact Engine.lookup_again (horder before) hbetween

end BraceTemplate
