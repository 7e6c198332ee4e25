import BraceTemplate.Log.Writer
import BraceTemplate.Proofs.DateText
import BraceTemplate.Proofs.Evaluations
import BraceTemplate.Proofs.Trimming

/-!
# Entries of the log are lines

What an engine writes to the console is made of names that a template or a registration gave and of texts of errors that
callers chose. No entry can pass for two: names are of the form that the readers ask for, and the texts of errors are
written as JSON, which escapes every unit that ends a line.

* `Text.IsLine` — a text that ends no line;
* `Json.isLine_compact` — compact JSON is a line, whatever texts it holds;
* `LogEntry.IsOneLine` — entries that are written as lines, and `Engine.isOneLine_of_mem_log` — all of an engine's are;
* `console_entries_are_lines` — for every engine that can be reached, whatever it is asked.
-/

namespace BraceTemplate

/-! ## Texts that end no line -/

namespace CodeUnit

abbrev carriageReturn : CodeUnit := 0x0D

/-- Whether a unit ends a line. -/
def endsLine (u : CodeUnit) : Bool :=
  u = lineFeed || u = carriageReturn

theorem endsLine_eq_false_iff {u : CodeUnit} : u.endsLine = false ↔ u ≠ lineFeed ∧ u ≠ carriageReturn := by
  simp [endsLine]

/-- No unit of a class ends a line if the two that do are not in it. -/
theorem endsLine_of_class {p : CodeUnit → Bool} (hfeed : p lineFeed = false) (hreturn : p carriageReturn = false)
    {u : CodeUnit} (h : p u) : u.endsLine = false := by
  rw [endsLine_eq_false_iff]
  constructor
  · rintro rfl
    rw [hfeed] at h
    cases h
  · rintro rfl
    rw [hreturn] at h
    cases h

theorem endsLine_of_continuesName {u : CodeUnit} (h : u.continuesName) : u.endsLine = false :=
  endsLine_of_class (by decide) (by decide) h

theorem continuesName_of_isDigit {u : CodeUnit} (h : u.isDigit) : u.continuesName := by
  simp [continuesName, h]

end CodeUnit

namespace Text

/-- A text without a unit that ends a line. -/
def IsLine (t : Text) : Prop :=
  ∀ u ∈ t, u.endsLine = false

instance (t : Text) : Decidable t.IsLine :=
  List.decidableBAll (p := fun u : CodeUnit => u.endsLine = false) t

theorem isLine_nil : IsLine [] := by
  intro u hu
  cases hu

theorem isLine_cons {u : CodeUnit} {t : Text} : IsLine (u :: t) ↔ u.endsLine = false ∧ IsLine t :=
  List.forall_mem_cons

theorem isLine_append {a b : Text} : IsLine (a ++ b) ↔ IsLine a ∧ IsLine b :=
  List.forall_mem_append

theorem IsLine.sublist {a b : Text} (h : IsLine b) (hsub : a.Sublist b) : IsLine a := by
  intro u hu
  exact h u (hsub.subset hu)

theorem isLine_flatten {parts : List Text} (h : ∀ p ∈ parts, IsLine p) : IsLine parts.flatten := by
  intro u hu
  rcases List.mem_flatten.1 hu with ⟨p, hp, hmem⟩
  exact h p hp u hmem

theorem isLine_join {separator : Text} {parts : List Text} (hseparator : IsLine separator)
    (h : ∀ p ∈ parts, IsLine p) : IsLine (join separator parts) := by
  induction parts with
  | nil => exact isLine_nil
  | cons p rest ih =>
    rcases List.forall_mem_cons.1 h with ⟨hp, hrest⟩
    cases rest with
    | nil =>
      rw [join, List.intercalate_singleton]
      exact hp
    | cons q rest =>
      rw [join, List.intercalate_cons_cons, isLine_append, isLine_append]
      exact ⟨⟨hp, hseparator⟩, ih hrest⟩

theorem isLine_replicate {u : CodeUnit} (h : u.endsLine = false) (n : Nat) : IsLine (List.replicate n u) := by
  intro v hv
  rw [List.eq_of_mem_replicate hv]
  exact h

theorem isLine_of_isValid {name : Text} (h : Name.isValid name) : IsLine name := by
  intro u hu
  apply CodeUnit.endsLine_of_continuesName
  cases name with
  | nil => cases hu
  | cons first rest =>
    rw [Name.isValid, Bool.and_eq_true] at h
    rcases List.mem_cons.1 hu with rfl | hu
    · exact CodeUnit.continuesName_of_startsName h.1
    · exact List.all_eq_true.1 h.2 u hu

/-! ### Numbers and times -/

theorem isLine_ofNat (n : Nat) : IsLine (ofNat n) := by
  intro u hu
  exact CodeUnit.endsLine_of_continuesName (CodeUnit.continuesName_of_isDigit (isDigit_of_mem_ofNat hu))

end Text

namespace Instant

/-- A time in interchange form is a line. -/
theorem isLine_isoText (t : Instant) : (isoText t).IsLine := by
  have hmarks : (Text.ofString "+-T:.Z").all fun u => !u.endsLine := by decide
  have hdigits : ∀ u : CodeUnit, u.isDigit → !u.endsLine := by
    intro u hu
    rw [CodeUnit.endsLine_of_continuesName (CodeUnit.continuesName_of_isDigit hu)]
    rfl
  intro u hu
  exact Bool.not_eq_eq_eq_not.1 (forall_mem_isoText hdigits hmarks t u hu)

end Instant

namespace Number

theorem isLine_ofScaled (a : Nat) (e : Int) : (Decimal.ofScaled a e).digits.IsLine := by
  have hsub : (stripZeros (Text.ofNat a)).Sublist (Text.ofNat a) := by
    have hdrop : ((Text.ofNat a).reverse.dropWhile (· = CodeUnit.zero)).Sublist (Text.ofNat a).reverse :=
      List.dropWhile_sublist _
    have hreverse := hdrop.reverse
    rwa [List.reverse_reverse] at hreverse
  exact (Text.isLine_ofNat a).sublist hsub

theorem isLine_search (i : RoundingInterval) (point : Int) (left : Nat) :
    ∀ count, (i.search point count left).digits.IsLine := by
  induction left with
  | zero =>
    intro count
    exact isLine_ofScaled _ _
  | succ left ih =>
    intro count
    unfold RoundingInterval.search
    simp only
    split
    · exact isLine_ofScaled _ _
    · split
      · exact isLine_ofScaled _ _
      · exact ih (count + 1)

/-- The layout of a decimal adds zeros, a point and an exponent to its digits. -/
theorem Decimal.isLine_toText {d : Decimal} (h : d.digits.IsLine) : d.toText.IsLine := by
  have hzeros : ∀ n, Text.IsLine (List.replicate n CodeUnit.zero) := Text.isLine_replicate (by decide)
  unfold Decimal.toText
  simp only
  -- the point stands behind the digits, within them, before them, or gives way to an exponent
  split
  · exact Text.isLine_append.2 ⟨h, hzeros _⟩
  · split
    · rw [Text.isLine_append, Text.isLine_cons]
      exact ⟨h.sublist (List.take_sublist _ _), by decide, h.sublist (List.drop_sublist _ _)⟩
    · split
      · rw [Text.isLine_cons, Text.isLine_cons, Text.isLine_append]
        exact ⟨by decide, by decide, hzeros _, h⟩
      · have hmark : Text.IsLine (CodeUnit.ofChar 'e' ::
            (if d.point - 1 < 0 then CodeUnit.minus else CodeUnit.plus) :: Text.ofNat (d.point - 1).natAbs) := by
          rw [Text.isLine_cons, Text.isLine_cons]
          refine ⟨by decide, ?_, Text.isLine_ofNat _⟩
          split
          · decide
          · decide
        split
        · rename_i first second rest hdigits
          rw [hdigits, Text.isLine_cons] at h
          rw [Text.isLine_append, Text.isLine_cons, Text.isLine_cons]
          exact ⟨⟨h.1, by decide, h.2⟩, hmark⟩
        · exact Text.isLine_append.2 ⟨h, hmark⟩

theorem isLine_toText (n : Number) : n.toText.IsLine := by
  cases n with
  | nan => decide
  | infinite negative =>
    cases negative with
    | false => decide
    | true => decide
  | finite negative mantissa shift =>
    have hdigits := Decimal.isLine_toText (isLine_search (roundingInterval mantissa shift)
      (roundingInterval mantissa shift).point 17 1)
    simp only [toText]
    split
    · decide
    · split
      · exact Text.isLine_cons.2 ⟨by decide, hdigits⟩
      · exact hdigits

end Number

/-! ## JSON -/

namespace Json

theorem endsLine_hexDigit {n : Nat} (h : n < 16) : (hexDigit n).endsLine = false := by
  have hall : ∀ n < 16, (hexDigit n).endsLine = false := by decide
  exact hall n h

/-- What is written for a unit; those that end lines have short escapes. -/
theorem isLine_quoteUnit (u : CodeUnit) : (quoteUnit u).IsLine := by
  unfold quoteUnit
  split
  · rename_i c hshort
    rw [Text.isLine_cons, Text.isLine_cons]
    refine ⟨by decide, ?_, Text.isLine_nil⟩
    unfold shortEscape? at hshort
    split_ifs at hshort with h1 h2 h3 h4 h5 h6
    · cases hshort; decide
    · cases hshort; decide
    · cases hshort; decide
    · cases hshort; decide
    · cases hshort; decide
    · cases hshort
      rw [Bool.or_eq_true, decide_eq_true_eq, decide_eq_true_eq] at h6
      rcases h6 with rfl | rfl
      · decide
      · decide
  · rename_i hshort
    split
    · have hn : u.toNat < 65536 := u.toNat_lt
      simp only [escapeUnit, Text.isLine_cons]
      exact ⟨by decide, by decide, endsLine_hexDigit (by omega), endsLine_hexDigit (by omega),
        endsLine_hexDigit (by omega), endsLine_hexDigit (by omega), Text.isLine_nil⟩
    · -- a unit that stands for itself has no short escape
      rw [Text.isLine_cons, CodeUnit.endsLine_eq_false_iff]
      refine ⟨⟨?_, ?_⟩, Text.isLine_nil⟩
      · rintro rfl
        cases hshort
      · rintro rfl
        cases hshort

theorem isLine_quoteBody (t : Text) : (quoteBody t).IsLine := by
  fun_induction quoteBody t with
  | case1 => exact Text.isLine_nil
  | case2 u => exact isLine_quoteUnit u
  | case3 u v rest hpair ih =>
    rw [Bool.and_eq_true] at hpair
    rw [Text.isLine_cons, Text.isLine_cons]
    have hhigh := CodeUnit.endsLine_of_class (by decide) (by decide) hpair.1
    have hlow := CodeUnit.endsLine_of_class (by decide) (by decide) hpair.2
    exact ⟨hhigh, hlow, ih⟩
  | case4 u v rest hpair ih => exact Text.isLine_append.2 ⟨isLine_quoteUnit u, ih⟩

/-- A text in quotes is a line, whatever stands in it. -/
theorem isLine_quoted (t : Text) : (quoted t).IsLine := by
  rw [quoted, Text.isLine_cons, Text.isLine_append]
  exact ⟨by decide, isLine_quoteBody t, by decide⟩

theorem isLine_enclose {opening closing : CodeUnit} {parts : List Text} (hopening : opening.endsLine = false)
    (hclosing : closing.endsLine = false) (h : ∀ p ∈ parts, p.IsLine) :
    (Layout.compact.enclose opening closing parts).IsLine := by
  cases parts with
  | nil =>
    rw [Layout.enclose, Text.isLine_cons, Text.isLine_cons]
    exact ⟨hopening, hclosing, Text.isLine_nil⟩
  | cons p rest =>
    have hseparator : Text.IsLine [CodeUnit.comma] := by decide
    have hjoined := Text.isLine_join hseparator h
    simp only [Layout.enclose, Layout.inner, Layout.lineBreak, Text.concat, List.flatten_cons, List.flatten_nil,
      List.nil_append, List.append_nil, Text.isLine_cons, Text.isLine_append]
    exact ⟨hopening, hjoined, hclosing, Text.isLine_nil⟩

mutual

/-- Compact JSON is a line. -/
theorem isLine_compact (v : Value) : (compact v).IsLine := by
  cases v with
  | null => decide
  | bool b =>
    cases b with
    | false => decide
    | true => decide
  | number n =>
    rw [compact, write]
    split
    · exact n.isLine_toText
    · decide
  | text t =>
    rw [compact, write]
    exact isLine_quoted t
  | list items =>
    rw [compact, write]
    exact isLine_enclose (by decide) (by decide) (isLine_writeAll items)
  | mapping entries =>
    rw [compact, write]
    exact isLine_enclose (by decide) (by decide) (isLine_writeEntries entries)

theorem isLine_writeAll (items : List (Option Value)) : ∀ p ∈ writeAll .compact items, p.IsLine := by
  match items with
  | [] =>
    rw [writeAll]
    exact List.forall_mem_nil _
  | none :: rest =>
    rw [writeAll, List.forall_mem_cons]
    exact ⟨by decide, isLine_writeAll rest⟩
  | some v :: rest =>
    rw [writeAll, List.forall_mem_cons]
    exact ⟨isLine_compact v, isLine_writeAll rest⟩

theorem isLine_writeEntries (entries : List (Text × Value)) : ∀ p ∈ writeEntries .compact entries, p.IsLine := by
  match entries with
  | [] =>
    rw [writeEntries]
    exact List.forall_mem_nil _
  | (key, v) :: rest =>
    rw [writeEntries, List.forall_mem_cons, Text.isLine_append, Text.isLine_append]
    exact ⟨⟨⟨isLine_quoted key, by decide⟩, isLine_compact v⟩, isLine_writeEntries rest⟩

end

end Json

/-! ## Entries -/

namespace LogEntry

/-- An entry that is written as a line: its message is one, and its data, if there are any, are those of a value. -/
def IsOneLine (e : LogEntry) : Prop :=
  e.message.IsLine ∧ (e.data = ⟨#[], .undefined⟩ ∨ ∃ v, e.data = .ofValue v)

theorem exists_dataText {data : Data} (h : data = ⟨#[], .undefined⟩ ∨ ∃ v, data = .ofValue v) :
    ∃ t, dataText data = .ok t ∧ t.IsLine := by
  rcases h with rfl | ⟨v, rfl⟩
  · exact ⟨[], rfl, Text.isLine_nil⟩
  · unfold dataText
    split
    · exact ⟨[], rfl, Text.isLine_nil⟩
    · have htree : Heap.toJson #[] (.value v) = .ok (some v) := by
        rw [Heap.toJson, Heap.jsonTree]
      refine ⟨CodeUnit.ofChar ' ' :: Json.compact v, ?_, ?_⟩
      · show (Heap.toJson #[] (.value v) >>= fun tree => _) = _
        rw [htree]
        rfl
      · exact Text.isLine_cons.2 ⟨by decide, Json.isLine_compact v⟩

theorem isLine_label (level : LogLevel) : (LogLevel.label level.word).IsLine := by
  cases level with
  | debug => decide
  | info => decide
  | warn => decide
  | error => decide

/-- Such an entry has a written form, and that is a line. -/
theorem IsOneLine.exists_toText {e : LogEntry} (h : e.IsOneLine) {timestamp scope : Text}
    (htimestamp : timestamp.IsLine) (hscope : scope.IsLine) : ∃ line, e.toText timestamp scope = .ok line ∧ line.IsLine := by
  rcases exists_dataText h.2 with ⟨t, hdata, ht⟩
  refine ⟨Text.concat ["[", timestamp, "] [", LogLevel.label e.level.word, "] [", scope, "] ", e.message, t], ?_, ?_⟩
  · rw [toText, line, hdata]
    rfl
  · apply Text.isLine_flatten
    simp only [List.forall_mem_cons]
    exact ⟨by decide, htimestamp, by decide, isLine_label e.level, by decide, hscope, by decide, h.1, ht, by simp⟩

theorem isOneLine_evicted (n : Nat) : (evicted n).IsOneLine := by
  have hmessage : evictionMessage.IsLine := by decide
  exact ⟨hmessage, .inr ⟨_, rfl⟩⟩

theorem isOneLine_registered {name : Text} (h : Name.IsFree name) : (registered name).IsOneLine := by
  constructor
  · apply Text.isLine_flatten
    simp only [List.forall_mem_cons]
    exact ⟨by decide, Text.isLine_of_isValid h.1, by simp⟩
  · exact .inl rfl

/-- The report of a failing call is a line, whatever the error says. -/
theorem isOneLine_of_ofEvent? {event : Event} {entry : LogEntry} (h : ofEvent? event = some entry)
    (hname : ∀ name message, event = .failed name message → Name.IsFree name) : entry.IsOneLine := by
  cases event with
  | invoked name args => cases h
  | failed name message =>
    rw [← Option.some.inj h]
    constructor
    · apply Text.isLine_flatten
      simp only [List.forall_mem_cons]
      exact ⟨by decide, Text.isLine_of_isValid (hname name message rfl).1, by decide, by simp⟩
    · exact .inr ⟨_, rfl⟩

end LogEntry

/-! ## Engines -/

variable {σ : Type}

/-- A render of a source reports failing calls only under free names, those of the calls that are written in it. -/
theorem Template.isFree_of_mem_events (registry : Registry σ) (ctx : Context) (source : Text) (host : σ)
    {name message : Text} (h : .failed name message ∈ (render registry ctx (ofSource source) host).events) :
    Name.IsFree name := by
  have htrace := (ofSource source).trace_evaluations registry ctx host
  rw [htrace.events] at h
  rcases List.mem_flatMap.1 h with ⟨e, he, hevent⟩
  have hcall : Name.IsFree e.call.name := isFree_of_mem_calls (htrace.written e he)
  cases hinvocation : e.invocation? registry with
  | none =>
    rw [Evaluation.run_of_refused hinvocation] at hevent
    cases hevent
  | some i =>
    rcases Evaluation.run_of_invoked hinvocation with ⟨hreaches, -, hevents⟩
    rw [hevents, Invocation.events, hreaches.named] at hevent
    rcases List.mem_cons.1 hevent with hcalled | hfailed
    · cases hcalled
    · rcases Option.map_eq_some_iff.1 (Option.mem_toList.1 hfailed) with ⟨_, -, heq⟩
      cases heq
      exact hcall

namespace Engine

/-- The engines that an engine can become from its making on: it is asked in any state of the host, and others that
share its functions change them in between. -/
inductive Reached (config : EngineConfig) (clock : Clock σ) (registry : Registry σ) : Engine σ → Prop where
  | made : Reached config clock registry (create config clock registry)
  | asked {e : Engine σ} (request : Request σ) (host : σ) :
      Reached config clock registry e → Reached config clock registry (e.handle request host).engine
  | shared {e : Engine σ} (changed : Registry σ) :
      Reached config clock registry e → Reached config clock registry { e with registry := changed }

variable {config : EngineConfig} {clock : Clock σ} {registry : Registry σ} {e : Engine σ}

theorem Reached.faithful (h : Reached config clock registry e) : e.Faithful := by
  induction h with
  | made =>
    intro s tree hmem
    cases hmem
  | asked request host _ ih => exact ih.handle request host
  | shared changed _ ih => exact ih

/-- All that a lookup logs is that a tree was driven out. -/
theorem isOneLine_of_mem_lookup {source : Text} {entry : LogEntry} (h : entry ∈ (e.lookup source).2.2) :
    entry.IsOneLine := by
  unfold lookup at h
  split at h
  · split at h
    · cases h
    · simp only at h
      split at h
      · rw [List.mem_singleton.1 h]
        exact LogEntry.isOneLine_evicted _
      · cases h
  · cases h

theorem isOneLine_of_mem_render (h : e.Faithful) {source : Text} {context : Data} {host : σ} {entry : LogEntry}
    (hentry : entry ∈ (e.render source context host).log) : entry.IsOneLine := by
  rw [render_eq h] at hentry
  rcases List.mem_append.1 hentry with hlookup | hevents
  · exact isOneLine_of_mem_lookup hlookup
  · rcases List.mem_filterMap.1 hevents with ⟨event, hmem, hevent⟩
    apply LogEntry.isOneLine_of_ofEvent? hevent
    rintro name message rfl
    unfold plainRender at hmem
    cases hctx : Context.create context with
    | error fault =>
      rw [hctx] at hmem
      cases hmem
    | ok ctx =>
      rw [hctx] at hmem
      exact Template.isFree_of_mem_events e.registry ctx source host hmem

/-- Every entry that a request leaves in the log is written as a line. -/
theorem isOneLine_of_mem_log (h : e.Faithful) {request : Request σ} {host : σ} {entry : LogEntry}
    (hentry : entry ∈ (e.handle request host).log) : entry.IsOneLine := by
  cases request with
  | parse t => exact isOneLine_of_mem_lookup hentry
  | render t context => exact isOneLine_of_mem_render h hentry
  | validate t => cases hentry
  | names t => exact isOneLine_of_mem_lookup hentry
  | undeclared t => exact isOneLine_of_mem_lookup hentry
  | thinking opening t context =>
    -- with an empty template the opening is the answer, and nothing is rendered
    by_cases hempty : t.toText.isEmpty
    · simp only [handle, if_pos hempty] at hentry
      cases hentry
    · simp only [handle, if_neg hempty] at hentry
      exact isOneLine_of_mem_render h hentry
  | register name callback minArguments acceptsAbsent =>
    cases hregister : e.registry.register name callback minArguments acceptsAbsent with
    | error error =>
      simp only [handle, hregister] at hentry
      cases hentry
    | ok changed =>
      simp only [handle, hregister] at hentry
      rw [List.mem_singleton.1 hentry]
      exact LogEntry.isOneLine_registered ((e.registry.registers_iff_isFree _ _ _).1 ⟨changed, hregister⟩)
  | clear => cases hentry

end Engine

/-- Entries of the log cannot be forged: each is one line.

However an engine was used, with whatever functions, an entry that a request leaves in the log can be written at any
time and at any level of the log. If its level is kept, then the console is handed one text, else none; and that text
holds no line feed and no carriage return, whatever names the templates hold and whatever was thrown. -/
theorem console_entries_are_lines {config : EngineConfig} {clock : Clock σ} {registry : Registry σ} {e : Engine σ}
    (h : Engine.Reached config clock registry e) (request : Request σ) (host : σ) (level : LogLevel) (now : Instant)
    (files : FileTree) :
    ∀ entry ∈ (e.handle request host).log, ∃ line : Text,
      (LogWriter.forEngine level).write (Instant.isoText now) entry files =
        .ok (if entry.level.reaches level then [⟨entry.level, line⟩] else [], files) ∧
      ∀ u ∈ line, u ≠ CodeUnit.lineFeed ∧ u ≠ CodeUnit.carriageReturn := by
  intro entry hentry
  have hentry := Engine.isOneLine_of_mem_log h.faithful hentry
  have hscope : (LogWriter.forEngine level).scope.IsLine := by
    show Text.IsLine "template-engine"
    decide
  rcases hentry.exists_toText (Instant.isLine_isoText now) hscope with ⟨line, hwritten, hline⟩
  refine ⟨line, ?_, ?_⟩
  · unfold LogWriter.write
    have hlevel : (LogWriter.forEngine level).level = level := rfl
    rw [hlevel]
    split
    · rw [hwritten]
      rfl
    · rfl
  · intro u hu
    exact CodeUnit.endsLine_eq_false_iff.1 (hline u hu)

/-- A function that throws an error whose message holds what looks like another entry: the render that calls it reports
it in one line. -/
theorem console_entries_are_lines_forged :
    let forging : Callback Unit :=
      ⟨0, fun _ _ host => (.failed (.raised "no\n[12:00] [ERROR] [template-engine] forged\r\n"), host)⟩
    let made : Engine Unit := .create .standard (fun _ => none) .empty
    let e := (made.handle (.register "f" forging none false) ()).engine
    Engine.Reached .standard (fun _ => none) .empty e ∧
    ∃ entry ∈ (e.handle (.render (.text "{f()}") (.ofValue (.mapping []))) ()).log, ∃ line : Text,
      (LogWriter.forEngine .info).write (Instant.isoText 0) entry ⟨[], []⟩ = .ok ([⟨.warn, line⟩], ⟨[], []⟩) ∧
      ∀ u ∈ line, u ≠ CodeUnit.lineFeed ∧ u ≠ CodeUnit.carriageReturn := by
  intro forging made e
  have hreached : Engine.Reached .standard (fun _ => none) .empty e :=
    .asked (.register "f" forging none false) () .made
  have hlevels : (e.handle (.render (.text "{f()}") (.ofValue (.mapping []))) ()).log.map LogEntry.level = [.warn] := by
    decide +kernel
  rcases List.map_eq_singleton_iff.1 hlevels with ⟨entry, hlog, hlevel⟩
  have hentry : entry ∈ (e.handle (.render (.text "{f()}") (.ofValue (.mapping []))) ()).log := by
    rw [hlog]
    exact List.mem_singleton_self entry
  have hline := console_entries_are_lines hreached (.render (.text "{f()}") (.ofValue (.mapping []))) () .info 0
    ⟨[], []⟩ entry hentry
  rw [hlevel] at hline
  exact ⟨hreached, entry, hentry, hline⟩

end BraceTemplate
