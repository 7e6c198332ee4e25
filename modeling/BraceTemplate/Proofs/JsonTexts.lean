import BraceTemplate.Json.Reading
import BraceTemplate.Json.Written
import BraceTemplate.Proofs.NormalValues
import BraceTemplate.Proofs.Unfolding

/-!
# JSON that is written and read back

A value without numbers, whose keys are in order, is read back from its JSON text, in whatever layout this is written
and whatever units stand in its texts. The blanks of a layout stand between tokens, so every layout is cut into the same
tokens.

* `unquote?_quoteBody` — a quoted text, controls and lone surrogates included;
* `Cuts`, `Reads` — a text that is cut into tokens, and tokens that are read as a value, whatever follows;
* `read?_write` — what is written is read back.
-/

namespace BraceTemplate.Json

/-! ## Quoted texts -/

/-- What stands for a unit is read as the unit, and then the rest. -/
def Unquotes (s t : Text) : Prop :=
  ∀ after, unquote? (s ++ after) = (unquote? after).map fun read => (t ++ read.1, read.2)

theorem Unquotes.nil : Unquotes [] [] := by
  intro after
  cases h : unquote? after with
  | none => simp [h]
  | some r => simp [h]

theorem Unquotes.append {s s' t t' : Text} (h : Unquotes s t) (h' : Unquotes s' t') : Unquotes (s ++ s') (t ++ t') := by
  intro after
  rw [List.append_assoc, h, h', Option.map_map]
  simp only [Function.comp_def, List.append_assoc]

/-- A unit that needs no escape stands for itself. -/
theorem unquotes_plain {u : CodeUnit} (hquote : u ≠ CodeUnit.quote) (hslash : u ≠ CodeUnit.backslash)
    (hcontrol : ¬ u < 0x20) : Unquotes [u] [u] := by
  intro after
  rw [List.singleton_append, unquote?.eq_def]
  simp only [if_neg hquote, if_neg hslash, if_neg hcontrol]
  rfl

theorem shortUnit?_shortEscape {u c : CodeUnit} (h : shortEscape? u = some c) :
    c ≠ CodeUnit.ofChar 'u' ∧ shortUnit? c = some u := by
  have hu : u = 0x08 ∨ u = 0x09 ∨ u = 0x0A ∨ u = 0x0C ∨ u = 0x0D ∨ u = CodeUnit.quote ∨ u = CodeUnit.backslash := by
    by_contra hnone
    simp only [not_or] at hnone
    simp [shortEscape?, hnone] at h
  rcases hu with rfl | rfl | rfl | rfl | rfl | rfl | rfl
  all_goals
    obtain rfl := Option.some.inj h
    decide

theorem ne_of_shortEscape {u : CodeUnit} (h : shortEscape? u = none) : u ≠ CodeUnit.quote ∧ u ≠ CodeUnit.backslash := by
  constructor
  · rintro rfl
    exact absurd h (by decide)
  · rintro rfl
    exact absurd h (by decide)

theorem baseDigit?_hexDigit {n : Nat} (h : n < 16) : Number.baseDigit? 16 (hexDigit n) = some n := by
  have hall : ∀ n < 16, Number.baseDigit? 16 (hexDigit n) = some n := by decide
  exact hall n h

theorem hexUnit?_digits (u : CodeUnit) : hexUnit? (hexDigit (u.toNat / 4096)) (hexDigit (u.toNat / 256 % 16))
    (hexDigit (u.toNat / 16 % 16)) (hexDigit (u.toNat % 16)) = some u := by
  have hu : u.toNat < 65536 := u.toNat_lt
  have hvalue : ((u.toNat / 4096 * 16 + u.toNat / 256 % 16) * 16 + u.toNat / 16 % 16) * 16 + u.toNat % 16 =
      u.toNat := by omega
  rw [hexUnit?, baseDigit?_hexDigit (by omega), baseDigit?_hexDigit (by omega), baseDigit?_hexDigit (by omega),
    baseDigit?_hexDigit (by omega)]
  simp only [hvalue]
  exact congrArg some UInt16.ofNat_toNat

theorem unquotes_quoteUnit (u : CodeUnit) : Unquotes (quoteUnit u) [u] := by
  have hquote : CodeUnit.backslash ≠ CodeUnit.quote := by decide
  have hcontrol : ¬ CodeUnit.backslash < 0x20 := by decide
  cases hshort : shortEscape? u with
  | some c =>
    obtain ⟨hu, hunit⟩ := shortUnit?_shortEscape hshort
    intro after
    simp only [quoteUnit, hshort, List.cons_append, List.nil_append]
    rw [unquote?.eq_def]
    simp only [if_neg hquote, if_neg hcontrol, if_neg hu, hunit, if_true]
  | none =>
    by_cases hescape : u < 0x20 || u.isHighSurrogate || u.isLowSurrogate
    · intro after
      simp only [quoteUnit, hshort, if_pos hescape, escapeUnit, List.cons_append, List.nil_append]
      rw [unquote?.eq_def]
      simp only [if_neg hquote, if_neg hcontrol, hexUnit?_digits, if_true]
    · simp only [quoteUnit, hshort, if_neg hescape]
      obtain ⟨hne, hslash⟩ := ne_of_shortEscape hshort
      refine unquotes_plain hne hslash ?_
      intro hlt
      simp [hlt] at hescape

theorem unquotes_surrogate {u : CodeUnit} (h : u.isHighSurrogate ∨ u.isLowSurrogate) : Unquotes [u] [u] := by
  have hle : 0xD800 ≤ u.toNat := by
    simp only [CodeUnit.isHighSurrogate, CodeUnit.isLowSurrogate, Bool.and_eq_true, decide_eq_true_eq,
      UInt16.le_iff_toNat_le, UInt16.reduceToNat] at h
    omega
  refine unquotes_plain ?_ ?_ ?_
  · rintro rfl
    exact absurd hle (by decide)
  · rintro rfl
    exact absurd hle (by decide)
  · simp only [UInt16.lt_iff_toNat_lt, UInt16.reduceToNat]
    omega

theorem unquotes_quoteBody (t : Text) : Unquotes (quoteBody t) t := by
  fun_induction quoteBody t with
  | case1 => exact .nil
  | case2 u => exact unquotes_quoteUnit u
  | case3 u v rest hpair ih =>
    rw [Bool.and_eq_true] at hpair
    exact (unquotes_surrogate (.inl hpair.1)).append ((unquotes_surrogate (.inr hpair.2)).append ih)
  | case4 u v rest _ ih => exact (unquotes_quoteUnit u).append ih

/-- A text between quotes is read up to the last quote. -/
theorem unquote?_quoteBody (t rest : Text) : unquote? (quoteBody t ++ CodeUnit.quote :: rest) = some (t, rest) := by
  have hend : unquote? (CodeUnit.quote :: rest) = some ([], rest) := by
    rw [unquote?.eq_def]
    exact if_pos rfl
  rw [unquotes_quoteBody, hend, Option.map_some, List.append_nil]

/-! ## Tokens -/

/-- A text that is cut into tokens, whatever follows it. -/
def Cuts (t : Text) (ts : List Token) : Prop :=
  ∀ rest more, (∀ fuel, rest.length < fuel → tokens? fuel rest = some more) →
    ∀ fuel, (t ++ rest).length < fuel → tokens? fuel (t ++ rest) = some (ts ++ more)

theorem Cuts.nil : Cuts [] [] :=
  fun _ _ hrest => hrest

theorem Cuts.append {s t : Text} {ss ts : List Token} (hs : Cuts s ss) (ht : Cuts t ts) : Cuts (s ++ t) (ss ++ ts) := by
  intro rest more hrest
  rw [List.append_assoc, List.append_assoc]
  exact hs (t ++ rest) (ts ++ more) (ht rest more hrest)

theorem Cuts.join {separator : Text} {separators : List Token} (hseparator : Cuts separator separators)
    {parts : List Text} {tss : List (List Token)} (h : List.Forall₂ Cuts parts tss) :
    Cuts (Text.join separator parts) (separators.intercalate tss) := by
  induction h with
  | nil => exact .nil
  | @cons p ts parts tss hp hparts ih =>
    cases hparts with
    | nil =>
      rw [Text.join, List.intercalate_singleton, List.intercalate_singleton]
      exact hp
    | cons hq hparts =>
      rw [Text.join, List.intercalate_cons_cons, List.intercalate_cons_cons]
      exact (hp.append hseparator).append ih

/-- Blanks stand between tokens. -/
theorem cuts_space {u : CodeUnit} (hu : isSpace u) : Cuts [u] [] := by
  intro rest more hrest fuel hfuel
  cases fuel with
  | zero => exact absurd hfuel (Nat.not_lt_zero _)
  | succ fuel =>
    rw [List.singleton_append, tokens?, if_pos hu]
    exact hrest fuel (Nat.lt_of_succ_lt_succ hfuel)

theorem cuts_replicate (n : Nat) : Cuts (List.replicate n 0x20) [] := by
  induction n with
  | zero => exact .nil
  | succ n ih => exact (cuts_space rfl).append ih

theorem cuts_lineBreak (layout : Layout) : Cuts layout.lineBreak [] := by
  cases layout with
  | compact => exact .nil
  | indented n => exact (cuts_space rfl).append (cuts_replicate n)

/-- A text that is one token, whatever follows it. -/
theorem cuts_token {u : CodeUnit} {s : Text} {token : Token} (hu : isSpace u = false)
    (htoken : ∀ rest, token? u (s ++ rest) = some (token, rest)) : Cuts (u :: s) [token] := by
  intro rest more hrest fuel hfuel
  cases fuel with
  | zero => exact absurd hfuel (Nat.not_lt_zero _)
  | succ fuel =>
    have hlength : rest.length < fuel := by
      simp only [List.length_append, List.length_cons] at hfuel
      omega
    rw [List.cons_append, tokens?, if_neg (Bool.eq_false_iff.1 hu), htoken]
    simp only [hrest fuel hlength]
    rfl

theorem cuts_quoted (t : Text) : Cuts (quoted t) [.scalar (.text t)] := by
  refine cuts_token rfl ?_
  intro rest
  have hread : unquote? (quoteBody t ++ [CodeUnit.quote] ++ rest) = some (t, rest) := by
    rw [List.append_assoc]
    exact unquote?_quoteBody t rest
  exact congrArg (Option.map fun r : Text × Text => (Token.scalar (.text r.1), r.2)) hread

theorem cuts_null : Cuts "null" [.scalar .null] :=
  cuts_token rfl fun _ => rfl

theorem cuts_bool (b : Bool) : Cuts (if b then "true" else "false" : Text) [.scalar (.bool b)] := by
  cases b with
  | false => exact cuts_token rfl fun _ => rfl
  | true => exact cuts_token rfl fun _ => rfl

theorem cuts_comma : Cuts [CodeUnit.comma] [.comma] :=
  cuts_token rfl fun _ => rfl

theorem cuts_afterKey (layout : Layout) : Cuts layout.afterKey [.colon] := by
  have hcolon : Cuts ":" [.colon] := cuts_token rfl fun _ => rfl
  cases layout with
  | compact => exact hcolon
  | indented n => exact hcolon.append (cuts_space rfl)

/-- Brackets with parts between them are cut into the brackets and the tokens of the parts with commas. -/
theorem cuts_enclose {opening closing : CodeUnit} {first last : Token} (hopening : Cuts [opening] [first])
    (hclosing : Cuts [closing] [last]) (layout : Layout) {parts : List Text} {tss : List (List Token)}
    (h : List.Forall₂ Cuts parts tss) :
    Cuts (layout.enclose opening closing parts) (first :: ([Token.comma].intercalate tss ++ [last])) := by
  cases h with
  | nil => exact hopening.append hclosing
  | cons hp hparts =>
    have hbreak := cuts_lineBreak layout.inner
    have hjoined := Cuts.join (cuts_comma.append hbreak) (.cons hp hparts)
    have hall := hopening.append (hbreak.append (hjoined.append ((cuts_lineBreak layout).append hclosing)))
    simpa [Layout.enclose, Text.concat] using hall

/-! ## Values -/

/-- Tokens that are read as a value, whatever follows them. They do not begin with a bracket that closes a list, so
they are not mistaken for its end. -/
structure Reads (ts : List Token) (v : Value) : Prop where
  begins : ∃ t more, ts = t :: more ∧ t ≠ .closeList
  value?_eq : ∀ rest fuel, 2 * ts.length ≤ fuel → value? fuel (ts ++ rest) = some (v, rest)

theorem reads_scalar (v : Value) : Reads [.scalar v] v where
  begins := ⟨.scalar v, [], rfl, nofun⟩
  value?_eq rest fuel _ := by
    rw [List.singleton_append, value?.eq_def]

theorem value?_openList {t : Token} (ht : t ≠ .closeList) (more : List Token) (fuel : Nat) :
    value? (fuel + 1) (.openList :: t :: more) = (items? fuel (t :: more)).map fun r => (.ofList r.1, r.2) := by
  cases t with
  | closeList => exact absurd rfl ht
  | _ => rfl

/-- The items of a list, with commas between them. -/
theorem items?_intercalate {tss : List (List Token)} {items : List Value} (h : List.Forall₂ Reads tss items)
    (hne : items ≠ []) (rest : List Token) (fuel : Nat)
    (hfuel : 2 * ([Token.comma].intercalate tss).length + 2 ≤ fuel) :
    items? fuel ([Token.comma].intercalate tss ++ .closeList :: rest) = some (items, rest) := by
  induction h generalizing fuel with
  | nil => exact absurd rfl hne
  | @cons ts v tss items hv hitems ih =>
    cases fuel with
    | zero => omega
    | succ fuel =>
      cases hitems with
      | nil =>
        rw [List.intercalate_singleton] at hfuel ⊢
        rw [items?, hv.value?_eq _ fuel (by omega)]
      | @cons ts' v' tss items hv' hitems =>
        rw [List.intercalate_cons_cons] at hfuel ⊢
        simp only [List.length_append, List.length_singleton] at hfuel
        rw [List.append_assoc, List.append_assoc, items?, hv.value?_eq _ fuel (by omega)]
        simp only [List.singleton_append]
        rw [ih (List.cons_ne_nil _ _) fuel (by omega)]
        rfl

theorem exists_intercalate_cons (separator ts : List Token) (tss : List (List Token)) :
    ∃ more, separator.intercalate (ts :: tss) = ts ++ more := by
  cases tss with
  | nil =>
    rw [List.intercalate_singleton]
    exact ⟨[], (List.append_nil ts).symm⟩
  | cons ts' tss =>
    rw [List.intercalate_cons_cons, List.append_assoc]
    exact ⟨_, rfl⟩

theorem reads_list {tss : List (List Token)} {items : List Value} (h : List.Forall₂ Reads tss items) :
    Reads (.openList :: ([Token.comma].intercalate tss ++ [.closeList])) (.ofList items) where
  begins := ⟨.openList, _, rfl, nofun⟩
  value?_eq rest fuel hfuel := by
    simp only [List.length_cons, List.length_append, List.length_nil] at hfuel
    cases fuel with
    | zero => omega
    | succ fuel =>
      have hitems := items?_intercalate h
      cases h with
      | nil => rfl
      | @cons ts v tss items hv hrest =>
        obtain ⟨t, more, rfl, ht⟩ := hv.begins
        obtain ⟨last, hjoined⟩ := exists_intercalate_cons [.comma] (t :: more) tss
        have hread := hitems (List.cons_ne_nil _ _) rest fuel (by omega)
        rw [hjoined, List.cons_append, List.cons_append] at hread
        rw [hjoined, List.cons_append, List.append_assoc, List.cons_append, List.cons_append, List.singleton_append,
          value?_openList ht, hread]
        rfl

theorem value?_openMapping (v : Value) (more : List Token) (fuel : Nat) :
    value? (fuel + 1) (.openMapping :: .scalar v :: more) =
      (members? fuel (.scalar v :: more)).map fun r => (.mapping (Mapping.ofList r.1), r.2) :=
  rfl

/-- Tokens that are read as an entry of a mapping, whatever follows them. -/
inductive ReadsEntry : List Token → Text × Value → Prop
  | mk {ts : List Token} {key : Text} {v : Value} : Reads ts v →
      ReadsEntry (.scalar (.text key) :: .colon :: ts) (key, v)

/-- The entries of a mapping, with commas between them. -/
theorem members?_intercalate {tss : List (List Token)} {entries : List (Text × Value)}
    (h : List.Forall₂ ReadsEntry tss entries) (hne : entries ≠ []) (rest : List Token) (fuel : Nat)
    (hfuel : 2 * ([Token.comma].intercalate tss).length + 2 ≤ fuel) :
    members? fuel ([Token.comma].intercalate tss ++ .closeMapping :: rest) = some (entries, rest) := by
  induction h generalizing fuel with
  | nil => exact absurd rfl hne
  | @cons ts e tss entries he hentries ih =>
    obtain @⟨ts, key, v, hv⟩ := he
    cases fuel with
    | zero => omega
    | succ fuel =>
      cases hentries with
      | nil =>
        rw [List.intercalate_singleton] at hfuel ⊢
        simp only [List.length_cons] at hfuel
        rw [List.cons_append, List.cons_append, members?, hv.value?_eq _ fuel (by omega)]
      | @cons ts' e' tss entries he' hentries =>
        rw [List.intercalate_cons_cons] at hfuel ⊢
        simp only [List.length_append, List.length_cons, List.length_nil] at hfuel
        rw [List.append_assoc, List.append_assoc, List.cons_append, List.cons_append, members?,
          hv.value?_eq _ fuel (by omega)]
        simp only [List.singleton_append]
        rw [ih (List.cons_ne_nil _ _) fuel (by omega)]
        rfl

theorem reads_mapping {tss : List (List Token)} {entries : List (Text × Value)}
    (h : List.Forall₂ ReadsEntry tss entries) (hordered : Mapping.Ordered entries) :
    Reads (.openMapping :: ([Token.comma].intercalate tss ++ [.closeMapping])) (.mapping entries) where
  begins := ⟨.openMapping, _, rfl, nofun⟩
  value?_eq rest fuel hfuel := by
    simp only [List.length_cons, List.length_append, List.length_nil] at hfuel
    cases fuel with
    | zero => omega
    | succ fuel =>
      have hentries := members?_intercalate h
      cases h with
      | nil => rfl
      | @cons ts e tss entries he hrest =>
        obtain @⟨ts, key, v, hv⟩ := he
        obtain ⟨last, hjoined⟩ := exists_intercalate_cons [.comma] (.scalar (.text key) :: .colon :: ts) tss
        have hread := hentries (List.cons_ne_nil _ _) rest fuel (by omega)
        rw [hjoined, List.cons_append, List.cons_append] at hread
        rw [hjoined, List.cons_append, List.append_assoc, List.cons_append, List.cons_append, List.singleton_append,
          value?_openMapping, hread, Option.map_some, Mapping.ofList_of_ordered hordered]

/-! ## Written and read -/

theorem writeAll_map_some (layout : Layout) (items : List Value) :
    writeAll layout (items.map some) = items.map (write layout) := by
  induction items with
  | nil => rw [List.map_nil, writeAll, List.map_nil]
  | cons v rest ih => rw [List.map_cons, writeAll, List.map_cons, ih]

theorem writeEntries_eq (layout : Layout) (entries : List (Text × Value)) :
    writeEntries layout entries = entries.map fun e => quoted e.1 ++ layout.afterKey ++ write layout e.2 := by
  induction entries with
  | nil => rw [writeEntries, List.map_nil]
  | cons e rest ih => rw [writeEntries, List.map_cons, ih]

/-- Values without numbers and without gaps, and with their keys in order. -/
abbrev IsExact : Value → Prop :=
  Value.Throughout (fun _ => False) (List.Pairwise Mapping.Precedes) False

/-- The JSON text of a value is cut into tokens that are read as the value. -/
theorem exists_tokens {v : Value} (hv : IsExact v) (layout : Layout) : ∃ ts, Cuts (write layout v) ts ∧ Reads ts v := by
  induction hv generalizing layout with
  | null =>
    rw [write]
    exact ⟨_, cuts_null, reads_scalar _⟩
  | bool b =>
    rw [write]
    exact ⟨_, cuts_bool b, reads_scalar _⟩
  | number hn => exact hn.elim
  | text t =>
    rw [write]
    exact ⟨_, cuts_quoted t, reads_scalar _⟩
  | @list items hgaps _ ih =>
    obtain ⟨tss, htss⟩ := exists_forall₂_of_forall_mem fun v hv => ih v hv layout.inner
    have hparts : List.Forall₂ Cuts (items.reduceOption.map (write layout.inner)) tss :=
      List.forall₂_map_left_iff.2 (htss.imp fun _ _ h => h.1)
    have hitems : List.Forall₂ Reads tss items.reduceOption := (htss.imp fun _ _ h => h.2).flip
    -- without gaps the list is the one that its items make up
    rw [← map_some_reduceOption hgaps, write, writeAll_map_some]
    exact ⟨_, cuts_enclose (cuts_token rfl fun _ => rfl) (cuts_token rfl fun _ => rfl) layout hparts, reads_list hitems⟩
  | @mapping entries hordered _ ih =>
    have hentry : ∀ e ∈ entries, ∃ ts,
        Cuts (quoted e.1 ++ layout.inner.afterKey ++ write layout.inner e.2) ts ∧ ReadsEntry ts e := by
      intro e he
      obtain ⟨ts, hcuts, hreads⟩ := ih e he layout.inner
      exact ⟨_, ((cuts_quoted e.1).append (cuts_afterKey _)).append hcuts, .mk hreads⟩
    obtain ⟨tss, htss⟩ := exists_forall₂_of_forall_mem hentry
    have hparts := List.forall₂_map_left_iff.2 (htss.imp fun _ _ h => h.1)
    have hentries : List.Forall₂ ReadsEntry tss entries := (htss.imp fun _ _ h => h.2).flip
    rw [write, writeEntries_eq]
    exact ⟨_, cuts_enclose (cuts_token rfl fun _ => rfl) (cuts_token rfl fun _ => rfl) layout hparts,
      reads_mapping hentries hordered⟩

/-- What is written is read back. -/
theorem read?_write {v : Value} (hv : IsExact v) (layout : Layout) : read? (write layout v) = some v := by
  obtain ⟨ts, hcuts, hreads⟩ := exists_tokens hv layout
  have hend : ∀ fuel, ([] : Text).length < fuel → tokens? fuel [] = some [] := by
    intro fuel _
    cases fuel <;> rfl
  have htokens := hcuts [] [] hend ((write layout v).length + 1) (by simp)
  have hvalue := hreads.value?_eq [] (2 * ts.length + 1) (by omega)
  rw [List.append_nil, List.append_nil] at htokens
  rw [List.append_nil] at hvalue
  simp only [read?, htokens, hvalue]

end BraceTemplate.Json
