import BraceTemplate.Expression.Lexeme
import Mathlib.Data.List.TakeWhile

/-!
# What lexemes are cut from a text

The spellings of a lexeme are given by rules. A text is cut into lexemes if each stands there in a spelling that
no other spelling at its place goes beyond, blanks apart; the scanner finds this cut, and fails if there is none.

* `first?_eq_some_iff` — the first lexeme is the one with the longest spelling;
* `all?_eq_some_iff` — the lexemes of a text are those of its cut.
-/

namespace BraceTemplate

namespace Number

/-- The digits of an unsigned number, perhaps with a point and further digits. -/
inductive Unsigned (negative : Bool) : Number → Text → Prop
  | whole {digits : Text} : digits ≠ [] → (∀ u ∈ digits, u.isDigit) →
      Unsigned negative (ofDigits negative digits [] 0) digits
  | fraction {digits decimals : Text} : digits ≠ [] → (∀ u ∈ digits, u.isDigit) →
      decimals ≠ [] → (∀ u ∈ decimals, u.isDigit) →
      Unsigned negative (ofDigits negative digits decimals 0) (digits ++ CodeUnit.point :: decimals)

/-- An unsigned number, perhaps after a minus. -/
inductive Signed : Number → Text → Prop
  | unsigned {n : Number} {s : Text} : Unsigned false n s → Signed n s
  | negative {n : Number} {s : Text} : Unsigned true n s → Signed n (CodeUnit.minus :: s)

end Number

/-- A name, or a name after a dollar sign. -/
inductive Name.IsWord : Text → Prop
  | name {w : Text} : isValid w → IsWord w
  | root {w : Text} : isValid w → IsWord (CodeUnit.dollar :: w)

/-- A name ends where no unit of a name follows. -/
theorem Name.split?_append {name : Text} (hname : isValid name) {u : CodeUnit}
    (hu : u.continuesName = false) (t : Text) : split? (name ++ u :: t) = some (name, u :: t) := by
  cases name with
  | nil => simp [isValid] at hname
  | cons v rest =>
    obtain ⟨hv, hrest⟩ : v.startsName ∧ ∀ w ∈ rest, w.continuesName := by simpa [isValid] using hname
    have hne : ¬ u.continuesName = true := by simp [hu]
    rw [List.cons_append, split?, if_pos hv, List.takeWhile_append_of_pos hrest,
      List.dropWhile_append_of_pos hrest, List.takeWhile_cons_of_neg hne, List.dropWhile_cons_of_neg hne,
      List.append_nil]

/-- A word may be gone on with. -/
theorem Name.IsWord.concat {w : Text} (hw : IsWord w) {u : CodeUnit} (hu : u.continuesName) :
    IsWord (w ++ [u]) := by
  have hvalid : ∀ {name : Text}, isValid name → isValid (name ++ [u]) := by
    intro name hname
    cases name with
    | nil => simp [isValid] at hname
    | cons v rest =>
      rw [isValid, Bool.and_eq_true] at hname
      simp [isValid, hname.1, hname.2, hu]
  cases hw with
  | name hname => exact .name (hvalid hname)
  | root hname => exact .root (hvalid hname)

namespace Lexeme

/-! ## Spellings -/

/-- How a text is written between two quotes: a backslash may stand before any unit, and must stand before
a backslash and before the quote. -/
inductive Inside (quote : CodeUnit) : Text → Text → Prop
  | nil : Inside quote [] []
  | plain {u : CodeUnit} {t s : Text} : u ≠ quote → u ≠ CodeUnit.backslash → Inside quote t s →
      Inside quote (u :: t) (u :: s)
  | escaped {u : CodeUnit} {t s : Text} : Inside quote t s →
      Inside quote (u :: t) (CodeUnit.backslash :: u :: s)

/-- How a lexeme is written. -/
inductive Spelling : Lexeme → Text → Prop
  | word {w : Text} : Name.IsWord w → Spelling (word w) w
  | text {quote : CodeUnit} {t s : Text} : quote = CodeUnit.quote ∨ quote = CodeUnit.apostrophe →
      Inside quote t s → Spelling (text t) (quote :: (s ++ [quote]))
  | number {n : Number} {s : Text} : Number.Signed n s → Spelling (number n) s
  | comparison (c : Comparison) : Spelling (comparison c) c.sign
  | openParen : Spelling openParen "("
  | closeParen : Spelling closeParen ")"
  | comma : Spelling comma ","
  | dot : Spelling dot "."

/-- A spelling at the start of a text such that no spelling there is longer. -/
def Longest (l : Lexeme) (s rest : Text) : Prop :=
  Spelling l s ∧ ∀ l' s', Spelling l' s' → s' <+: s ++ rest → s'.length ≤ s.length

/-- A text cut into lexemes, each as long as can be, with blanks between them. -/
inductive Cut : Text → List Lexeme → Prop
  | nil : Cut [] []
  | blank {u : CodeUnit} {t : Text} {ls : List Lexeme} : u.isBlank → Cut t ls → Cut (u :: t) ls
  | lexeme {l : Lexeme} {s t : Text} {ls : List Lexeme} : Longest l s t → Cut t ls → Cut (s ++ t) (l :: ls)

/-! ## Reaching as far as a spelling

The scanner is compared with a spelling `s` in `s ++ rest`: it reads at least as much, and if it reads just `s`
then it reads what `s` spells. -/

/-- What was read leaves no more than `rest`, and is `a` if it leaves `rest`. -/
def Reaches {α : Type} (read : Option (α × Text)) (a : α) (rest : Text) : Prop :=
  ∃ b after, read = some (b, after) ∧ after.length ≤ rest.length ∧ (after = rest → b = a)

theorem Reaches.exact {α : Type} (a : α) (rest : Text) : Reaches (some (a, rest)) a rest :=
  ⟨a, rest, rfl, Nat.le_refl _, fun _ => rfl⟩

theorem Reaches.map {α β : Type} {read : Option (α × Text)} {a : α} {rest : Text} (f : α → β)
    (h : Reaches read a rest) : Reaches (read.map fun (b, r) => (f b, r)) (f a) rest := by
  obtain ⟨b, after, rfl, hle, heq⟩ := h
  exact ⟨f b, after, rfl, hle, fun hrest => congrArg f (heq hrest)⟩

/-- A run may go on into the rest. -/
theorem dropWhile_append_length_le {p : CodeUnit → Bool} {s : Text} (hs : ∀ u ∈ s, p u) (rest : Text) :
    ((s ++ rest).dropWhile p).length ≤ rest.length := by
  rw [List.dropWhile_append_of_pos hs]
  exact dropWhile_length_le p rest

/-- A run that leaves the rest does not go on into it. -/
theorem takeWhile_append_of_dropWhile {p : CodeUnit → Bool} {s rest : Text}
    (h : (s ++ rest).dropWhile p = rest) : (s ++ rest).takeWhile p = s := by
  have hall := List.takeWhile_append_dropWhile (p := p) (l := s ++ rest)
  rw [h] at hall
  exact List.append_cancel_right hall

/-! ## Texts in quotes -/

theorem quoted?_of_inside {quote : CodeUnit} {t s : Text} (h : Inside quote t s)
    (hq : quote ≠ CodeUnit.backslash) (rest : Text) :
    quoted? quote (s ++ quote :: rest) = some (t, rest) := by
  induction h with
  | nil =>
    rw [List.nil_append, quoted?.eq_def]
    simp [hq]
  | plain hquote hslash _ ih =>
    rw [List.cons_append, quoted?.eq_def]
    simp [hquote, hslash, ih]
  | escaped _ ih =>
    rw [List.cons_append, List.cons_append, quoted?.eq_def]
    simp [ih]

theorem inside_of_quoted? {quote : CodeUnit} {text t rest : Text} (h : quoted? quote text = some (t, rest)) :
    ∃ s, text = s ++ quote :: rest ∧ Inside quote t s := by
  fun_induction quoted? quote text generalizing t with
  | case1 => simp at h
  | case2 => simp at h
  | case3 v after ih =>
    -- a backslash and the unit after it are read together, also where this is the quote
    obtain ⟨⟨t', rest'⟩, hread, heq⟩ := Option.map_eq_some_iff.1 h
    obtain ⟨rfl, rfl⟩ := Prod.mk.inj heq
    obtain ⟨s, rfl, hs⟩ := ih hread
    exact ⟨CodeUnit.backslash :: v :: s, rfl, .escaped hs⟩
  | case4 =>
    obtain ⟨rfl, rfl⟩ := Prod.mk.inj (Option.some.inj h)
    exact ⟨[], rfl, .nil⟩
  | case5 u after hslash hquote ih =>
    obtain ⟨⟨t', rest'⟩, hread, heq⟩ := Option.map_eq_some_iff.1 h
    obtain ⟨rfl, rfl⟩ := Prod.mk.inj heq
    obtain ⟨s, rfl, hs⟩ := ih hread
    exact ⟨u :: s, rfl, .plain hquote hslash hs⟩

/-! ## Numbers -/

theorem unsigned?_of_digits {negative : Bool} {t : Text} (h : t.takeWhile CodeUnit.isDigit ≠ []) :
    unsigned? negative t =
      some (Number.ofDigits negative (t.takeWhile CodeUnit.isDigit)
        (fraction (t.dropWhile CodeUnit.isDigit)).1 0, (fraction (t.dropWhile CodeUnit.isDigit)).2) := by
  simp [unsigned?, Number.spanDigits, h]

/-- A fraction is a point with digits, or there is none and nothing is read. -/
theorem fraction_cases (t : Text) :
    (∃ decimals, t = CodeUnit.point :: decimals ++ (fraction t).2 ∧ (fraction t).1 = decimals ∧
      decimals ≠ [] ∧ ∀ u ∈ decimals, u.isDigit) ∨ fraction t = ([], t) := by
  cases t with
  | nil => exact .inr rfl
  | cons u rest =>
    by_cases h : u = CodeUnit.point ∧ (rest.head?.map CodeUnit.isDigit).getD false
    · obtain ⟨rfl, hdigit⟩ := h
      refine .inl ⟨rest.takeWhile CodeUnit.isDigit, ?_, ?_, ?_, fun u hu => List.mem_takeWhile_imp hu⟩
      · simp [fraction, hdigit, Number.spanDigits]
      · simp [fraction, hdigit, Number.spanDigits]
      · cases rest with
        | nil => simp at hdigit
        | cons v rest => simp at hdigit; simp [hdigit]
    · right
      simp only [fraction, Bool.and_eq_true, decide_eq_true_eq, h, if_false]

/-- A point with digits is read as far as digits go. -/
theorem fraction_reaches {decimals : Text} (hne : decimals ≠ []) (h : ∀ u ∈ decimals, u.isDigit)
    (rest : Text) : Reaches (some (fraction (CodeUnit.point :: decimals ++ rest))) decimals rest := by
  have hspan : fraction (CodeUnit.point :: decimals ++ rest) = Number.spanDigits (decimals ++ rest) := by
    cases decimals with
    | nil => exact absurd rfl hne
    | cons u decimals => simp [fraction, h u (by simp)]
  rw [hspan]
  exact ⟨_, _, rfl, dropWhile_append_length_le h rest, takeWhile_append_of_dropWhile⟩

theorem unsigned?_reaches {negative : Bool} {n : Number} {s : Text} (h : Number.Unsigned negative n s)
    (rest : Text) : Reaches (unsigned? negative (s ++ rest)) n rest := by
  cases h with
  | whole hne hdigits =>
    have htake : (s ++ rest).takeWhile CodeUnit.isDigit ≠ [] := by
      rw [List.takeWhile_append_of_pos hdigits]
      simp [hne]
    have hle := dropWhile_append_length_le hdigits rest
    refine ⟨_, _, unsigned?_of_digits htake, (fraction_length_le _).trans hle, fun hrest => ?_⟩
    obtain ⟨decimals, hfrac, -⟩ | hfrac := fraction_cases ((s ++ rest).dropWhile CodeUnit.isDigit)
    · -- the decimals read were not given back, so less than `rest` is left
      rw [hfrac, hrest, List.cons_append, List.length_cons, List.length_append] at hle
      omega
    · rw [hfrac] at hrest ⊢
      rw [takeWhile_append_of_dropWhile hrest]
  | @fraction digits decimals hne hdigits hdne hd =>
    have hpoint : CodeUnit.isDigit CodeUnit.point = false := by decide
    have htake : (digits ++ CodeUnit.point :: decimals ++ rest).takeWhile CodeUnit.isDigit = digits := by
      rw [List.append_assoc, List.takeWhile_append_of_pos hdigits]
      simp [hpoint]
    have hdrop : (digits ++ CodeUnit.point :: decimals ++ rest).dropWhile CodeUnit.isDigit =
        CodeUnit.point :: decimals ++ rest := by
      rw [List.append_assoc, List.dropWhile_append_of_pos hdigits]
      simp [hpoint]
    rw [unsigned?_of_digits (by rwa [htake]), htake, hdrop]
    exact (fraction_reaches hdne hd rest).map fun decimals => Number.ofDigits negative digits decimals 0

theorem unsigned_of_unsigned? {negative : Bool} {n : Number} {t rest : Text}
    (h : unsigned? negative t = some (n, rest)) : ∃ s, t = s ++ rest ∧ Number.Unsigned negative n s := by
  by_cases hne : t.takeWhile CodeUnit.isDigit = []
  · simp [unsigned?, Number.spanDigits, hne] at h
  · rw [unsigned?_of_digits hne] at h
    obtain ⟨rfl, rfl⟩ := Prod.mk.inj (Option.some.inj h)
    have hdigits : ∀ u ∈ t.takeWhile CodeUnit.isDigit, u.isDigit := fun u hu => List.mem_takeWhile_imp hu
    have ht := List.takeWhile_append_dropWhile (p := CodeUnit.isDigit) (l := t)
    obtain ⟨decimals, hfrac, hread, hdne, hd⟩ | hfrac := fraction_cases (t.dropWhile CodeUnit.isDigit)
    · rw [hread]
      refine ⟨_, ?_, .fraction hne hdigits hdne hd⟩
      rw [List.append_assoc, ← hfrac, ht]
    · rw [hfrac]
      exact ⟨_, ht.symm, .whole hne hdigits⟩

theorem unsigned_cons {negative : Bool} {n : Number} {s : Text} (h : Number.Unsigned negative n s) :
    ∃ u s', s = u :: s' ∧ u.isDigit := by
  cases h with
  | whole hne hdigits =>
    obtain ⟨u, s', rfl⟩ := List.exists_cons_of_ne_nil hne
    exact ⟨u, s', rfl, hdigits u (by simp)⟩
  | fraction hne hdigits =>
    obtain ⟨u, s', rfl⟩ := List.exists_cons_of_ne_nil hne
    exact ⟨u, _, rfl, hdigits u (by simp)⟩

theorem number?_reaches {n : Number} {s : Text} (h : Number.Signed n s) (rest : Text) :
    Reaches (number? (s ++ rest)) n rest := by
  cases h with
  | unsigned hn =>
    obtain ⟨u, s', rfl, hu⟩ := unsigned_cons hn
    have hm : u ≠ CodeUnit.minus := by
      rintro rfl
      exact absurd hu (by decide)
    rw [List.cons_append, number?, if_neg hm]
    exact unsigned?_reaches hn rest
  | negative hn =>
    rw [List.cons_append, number?, if_pos rfl]
    exact unsigned?_reaches hn rest

theorem signed_of_number? {n : Number} {t rest : Text} (h : number? t = some (n, rest)) :
    ∃ s, t = s ++ rest ∧ Number.Signed n s := by
  cases t with
  | nil => simp [number?] at h
  | cons u t =>
    by_cases hm : u = CodeUnit.minus
    · simp only [number?, hm, if_true] at h
      obtain ⟨s, rfl, hs⟩ := unsigned_of_unsigned? h
      exact ⟨_, by rw [hm]; rfl, .negative hs⟩
    · simp only [number?, hm, if_false] at h
      obtain ⟨s, hs, hn⟩ := unsigned_of_unsigned? h
      exact ⟨s, hs, .unsigned hn⟩

/-! ## Words -/

theorem split?_reaches {w : Text} (h : Name.isValid w) (rest : Text) :
    Reaches (Name.split? (w ++ rest)) w rest := by
  cases w with
  | nil => simp [Name.isValid] at h
  | cons u w =>
    obtain ⟨hu, hw⟩ : u.startsName ∧ ∀ v ∈ w, v.continuesName := by simpa [Name.isValid] using h
    refine ⟨u :: (w ++ rest).takeWhile CodeUnit.continuesName, _, by simp [Name.split?, hu],
      dropWhile_append_length_le hw rest, fun hrest => ?_⟩
    rw [takeWhile_append_of_dropWhile hrest]

theorem name_of_split? {t w rest : Text} (h : Name.split? t = some (w, rest)) :
    t = w ++ rest ∧ Name.isValid w := by
  cases t with
  | nil => simp [Name.split?] at h
  | cons u t =>
    by_cases hu : u.startsName
    · simp only [Name.split?, hu, if_true] at h
      obtain ⟨rfl, rfl⟩ := Prod.mk.inj (Option.some.inj h)
      exact ⟨by simp, by simp [Name.isValid, hu]⟩
    · simp [Name.split?, hu] at h

theorem not_startsName_dollar : CodeUnit.startsName CodeUnit.dollar = false := by decide

theorem word?_reaches {w : Text} (h : Name.IsWord w) (rest : Text) : Reaches (word? (w ++ rest)) w rest := by
  cases h with
  | name hw =>
    cases w with
    | nil => simp [Name.isValid] at hw
    | cons u w =>
      have hu : u ≠ CodeUnit.dollar := by
        rintro rfl
        simp [Name.isValid, not_startsName_dollar] at hw
      rw [List.cons_append, word?, if_neg hu]
      exact split?_reaches hw rest
  | root hw =>
    rw [List.cons_append, word?, if_pos rfl]
    exact (split?_reaches hw rest).map _

theorem word_of_word? {t w rest : Text} (h : word? t = some (w, rest)) : t = w ++ rest ∧ Name.IsWord w := by
  cases t with
  | nil => simp [word?] at h
  | cons u t =>
    by_cases hu : u = CodeUnit.dollar
    · rw [word?, if_pos hu] at h
      obtain ⟨⟨name, r⟩, hread, heq⟩ := Option.map_eq_some_iff.1 h
      obtain ⟨rfl, rfl⟩ := Prod.mk.inj heq
      obtain ⟨rfl, hname⟩ := name_of_split? hread
      exact ⟨rfl, hu ▸ .root hname⟩
    · rw [word?, if_neg hu] at h
      obtain ⟨ht, hname⟩ := name_of_split? h
      exact ⟨ht, .name hname⟩

theorem word?_append {w : Text} (hw : Name.IsWord w) {u : CodeUnit} (hu : u.continuesName = false)
    (t : Text) : word? (w ++ u :: t) = some (w, u :: t) := by
  cases hw with
  | name hname =>
    have hread := Name.split?_append hname hu t
    cases w with
    | nil => simp [Name.isValid] at hname
    | cons v w =>
      have hv : v ≠ CodeUnit.dollar := by
        rintro rfl
        simp [Name.isValid, not_startsName_dollar] at hname
      rw [List.cons_append, word?, if_neg hv]
      exact hread
  | root hname =>
    rw [List.cons_append, word?, if_pos rfl, Name.split?_append hname hu t]
    rfl

/-! ## Comparison signs -/

theorem comparison_of_comparison? {t rest : Text} {c : Comparison} (h : comparison? t = some (c, rest)) :
    t = c.sign ++ rest := by
  obtain ⟨c', -, hc⟩ := List.exists_of_findSome?_eq_some h
  obtain ⟨r, hdrop, heq⟩ := Option.map_eq_some_iff.1 hc
  obtain ⟨rfl, rfl⟩ := Prod.mk.inj heq
  unfold Text.dropStart? at hdrop
  split at hdrop
  · rename_i hstart
    rw [← Option.some.inj hdrop]
    exact (List.prefix_iff_eq_append.1 (List.isPrefixOf_iff_prefix.1 hstart)).symm
  · simp at hdrop

/-- The signs unit by unit. -/
theorem sign_eq (c : Comparison) : c.sign = match c with
    | .equal => [0x3D, 0x3D]
    | .unequal => [0x21, 0x3D]
    | .greater => [0x3E]
    | .less => [0x3C]
    | .atLeast => [0x3E, 0x3D]
    | .atMost => [0x3C, 0x3D] := by
  cases c <;> rfl

/-- A short sign before an equals sign is read as the long one. -/
theorem comparison?_reaches (c : Comparison) (rest : Text) : Reaches (comparison? (c.sign ++ rest)) c rest := by
  cases c with
  | equal | unequal | atLeast | atMost =>
    simpa [comparison?, Text.dropStart?, sign_eq] using Reaches.exact _ rest
  | greater =>
    cases rest with
    | nil => simpa [comparison?, Text.dropStart?, sign_eq] using Reaches.exact _ []
    | cons v rest =>
      by_cases hv : v = 0x3D
      · exact ⟨.atLeast, rest, by simp [comparison?, Text.dropStart?, sign_eq, hv], by simp, by simp⟩
      · simpa [comparison?, Text.dropStart?, sign_eq, Ne.symm hv] using Reaches.exact _ (v :: rest)
  | less =>
    cases rest with
    | nil => simpa [comparison?, Text.dropStart?, sign_eq] using Reaches.exact _ []
    | cons v rest =>
      by_cases hv : v = 0x3D
      · exact ⟨.atMost, rest, by simp [comparison?, Text.dropStart?, sign_eq, hv], by simp, by simp⟩
      · simpa [comparison?, Text.dropStart?, sign_eq, Ne.symm hv] using Reaches.exact _ (v :: rest)

/-! ## What lexemes begin with

The kinds of lexemes begin with different units, so the order in which they are tried does not matter. -/

/-- What a text begins with. -/
def isQuote (u : CodeUnit) : Bool :=
  u = CodeUnit.quote || u = CodeUnit.apostrophe

/-- What a number begins with. -/
def startsNumber (u : CodeUnit) : Bool :=
  u.isDigit || u = CodeUnit.minus

/-- What a word begins with. -/
def startsWord (u : CodeUnit) : Bool :=
  u.startsName || u = CodeUnit.dollar

/-- What a comparison sign begins with. -/
def startsComparison (u : CodeUnit) : Bool :=
  u ∈ [0x3D, 0x21, 0x3E, 0x3C]

theorem startsNumber_excludes {u : CodeUnit} (h : startsNumber u) : isQuote u = false ∧ u.isBlank = false := by
  simp only [startsNumber, isQuote, CodeUnit.isDigit, CodeUnit.isBlank,
    Bool.or_eq_true, Bool.and_eq_true, decide_eq_true_eq, Bool.or_eq_false_iff, Bool.and_eq_false_iff,
    decide_eq_false_iff_not, UInt16.le_iff_toNat_le, ← UInt16.toNat_inj, CodeUnit.quote, CodeUnit.apostrophe,
    CodeUnit.minus, UInt16.reduceToNat] at *
  omega

theorem startsWord_excludes {u : CodeUnit} (h : startsWord u) :
    isQuote u = false ∧ startsNumber u = false ∧ u.isBlank = false := by
  simp only [startsWord, startsNumber, isQuote, CodeUnit.startsName, CodeUnit.isLetter, CodeUnit.isDigit,
    CodeUnit.isBlank,
    Bool.or_eq_true, Bool.and_eq_true, decide_eq_true_eq, Bool.or_eq_false_iff, Bool.and_eq_false_iff,
    decide_eq_false_iff_not, UInt16.le_iff_toNat_le, ← UInt16.toNat_inj, CodeUnit.quote, CodeUnit.apostrophe,
    CodeUnit.underscore, CodeUnit.dollar, CodeUnit.minus, UInt16.reduceToNat] at *
  omega

theorem startsComparison_excludes {u : CodeUnit} (h : startsComparison u) :
    isQuote u = false ∧ startsNumber u = false ∧ startsWord u = false ∧ u.isBlank = false := by
  simp only [startsComparison, List.mem_cons, List.not_mem_nil, or_false, decide_eq_true_eq] at h
  rcases h with rfl | rfl | rfl | rfl <;> decide

/-- The first lexeme as a choice of what can be read. -/
theorem first?_eq (u : CodeUnit) (rest : Text) (h : isQuote u = false) : first? u rest =
    (((number? (u :: rest)).map fun (n, r) => (number n, r)).or
      (((word? (u :: rest)).map fun (w, r) => (word w, r)).or
        (((comparison? (u :: rest)).map fun (c, r) => (comparison c, r)).or
          ((mark? u).map (·, rest))))) := by
  have hq : ¬ (u = CodeUnit.quote || u = CodeUnit.apostrophe) := by simpa [isQuote] using h
  rw [first?, if_neg hq]
  cases number? (u :: rest) with
  | some x => rfl
  | none =>
    cases word? (u :: rest) with
    | some x => rfl
    | none => cases comparison? (u :: rest) <;> rfl

theorem first?_quote {u : CodeUnit} (h : isQuote u) (rest : Text) :
    first? u rest = (quoted? u rest).map fun (t, r) => (text t, r) := by
  have hq : (u = CodeUnit.quote || u = CodeUnit.apostrophe) = true := h
  rw [first?, if_pos hq]

theorem number?_eq_none {u : CodeUnit} (h : startsNumber u = false) (rest : Text) :
    number? (u :: rest) = none := by
  obtain ⟨hd, hm⟩ : u.isDigit = false ∧ u ≠ CodeUnit.minus := by simpa [startsNumber] using h
  simp [number?, unsigned?, Number.spanDigits, hd, hm]

theorem word?_eq_none {u : CodeUnit} (h : startsWord u = false) (rest : Text) :
    word? (u :: rest) = none := by
  obtain ⟨hn, hd⟩ : u.startsName = false ∧ u ≠ CodeUnit.dollar := by simpa [startsWord] using h
  simp [word?, Name.split?, hn, hd]

theorem comparison?_eq_none {u : CodeUnit} (h : startsComparison u = false) (rest : Text) :
    comparison? (u :: rest) = none := by
  simp only [startsComparison, List.mem_cons, List.not_mem_nil, or_false, decide_eq_false_iff_not, not_or] at h
  obtain ⟨h1, h2, h3, h4⟩ := h
  simp [comparison?, Text.dropStart?, sign_eq, Ne.symm h1, Ne.symm h2, Ne.symm h3, Ne.symm h4]

theorem startsNumber_of_number? {u : CodeUnit} {rest : Text} {x : Number × Text}
    (h : number? (u :: rest) = some x) : startsNumber u := by
  by_contra hu
  simp [number?_eq_none (Bool.eq_false_iff.2 hu)] at h

theorem startsWord_of_word? {u : CodeUnit} {rest : Text} {x : Text × Text}
    (h : word? (u :: rest) = some x) : startsWord u := by
  by_contra hu
  simp [word?_eq_none (Bool.eq_false_iff.2 hu)] at h

theorem startsComparison_of_comparison? {u : CodeUnit} {rest : Text} {x : Comparison × Text}
    (h : comparison? (u :: rest) = some x) : startsComparison u := by
  by_contra hu
  simp [comparison?_eq_none (Bool.eq_false_iff.2 hu)] at h

theorem first?_of_number? {u : CodeUnit} {rest r : Text} {n : Number} (h : number? (u :: rest) = some (n, r)) :
    first? u rest = some (number n, r) := by
  rw [first?_eq u rest (startsNumber_excludes (startsNumber_of_number? h)).1, h]
  rfl

theorem first?_of_word? {u : CodeUnit} {rest w r : Text} (h : word? (u :: rest) = some (w, r)) :
    first? u rest = some (word w, r) := by
  obtain ⟨hquote, hnumber, -⟩ := startsWord_excludes (startsWord_of_word? h)
  rw [first?_eq u rest hquote, number?_eq_none hnumber, h]
  rfl

theorem first?_of_comparison? {u : CodeUnit} {rest r : Text} {c : Comparison}
    (h : comparison? (u :: rest) = some (c, r)) : first? u rest = some (comparison c, r) := by
  obtain ⟨hquote, hnumber, hword, -⟩ := startsComparison_excludes (startsComparison_of_comparison? h)
  rw [first?_eq u rest hquote, number?_eq_none hnumber, word?_eq_none hword, h]
  rfl

theorem first?_of_mark? {u : CodeUnit} {l : Lexeme} (h : mark? u = some l) (rest : Text) :
    first? u rest = some (l, rest) := by
  have hother : isQuote u = false ∧ startsNumber u = false ∧ startsWord u = false ∧
      startsComparison u = false := by
    unfold mark? at h
    split_ifs at h with hopen hclose hcomma hdot
    · subst hopen
      decide
    · subst hclose
      decide
    · subst hcomma
      decide
    · subst hdot
      decide
  obtain ⟨hquote, hnumber, hword, hcomparison⟩ := hother
  rw [first?_eq u rest hquote, number?_eq_none hnumber, word?_eq_none hword,
    comparison?_eq_none hcomparison, h]
  rfl

theorem spelling_of_mark? {u : CodeUnit} {l : Lexeme} (h : mark? u = some l) : Spelling l [u] := by
  unfold mark? at h
  split_ifs at h with hopen hclose hcomma hdot
  · rw [← Option.some.inj h, hopen]
    exact .openParen
  · rw [← Option.some.inj h, hclose]
    exact .closeParen
  · rw [← Option.some.inj h, hcomma]
    exact .comma
  · rw [← Option.some.inj h, hdot]
    exact .dot

/-- What is read as the first lexeme is a spelling of it. -/
theorem spelling_of_first? {u : CodeUnit} {rest r : Text} {l : Lexeme} (h : first? u rest = some (l, r)) :
    ∃ s, u :: rest = s ++ r ∧ Spelling l s := by
  by_cases hquote : isQuote u
  · rw [first?_quote hquote] at h
    obtain ⟨⟨t, r'⟩, hread, heq⟩ := Option.map_eq_some_iff.1 h
    obtain ⟨rfl, rfl⟩ := Prod.mk.inj heq
    obtain ⟨s, rfl, hs⟩ := inside_of_quoted? hread
    have hkind : u = CodeUnit.quote ∨ u = CodeUnit.apostrophe := by simpa [isQuote] using hquote
    exact ⟨u :: (s ++ [u]), by simp, .text hkind hs⟩
  · rw [first?_eq u rest (Bool.eq_false_iff.2 hquote)] at h
    simp only [Option.or_eq_some_iff, Option.map_eq_some_iff] at h
    rcases h with ⟨⟨n, r'⟩, hread, heq⟩ | ⟨-, ⟨⟨w, r'⟩, hread, heq⟩ | ⟨-, h⟩⟩
    · obtain ⟨rfl, rfl⟩ := Prod.mk.inj heq
      obtain ⟨s, hsplit, hn⟩ := signed_of_number? hread
      exact ⟨s, hsplit, .number hn⟩
    · obtain ⟨rfl, rfl⟩ := Prod.mk.inj heq
      obtain ⟨hsplit, hw⟩ := word_of_word? hread
      exact ⟨w, hsplit, .word hw⟩
    · rcases h with ⟨⟨c, r'⟩, hread, heq⟩ | ⟨-, m, hread, heq⟩
      · obtain ⟨rfl, rfl⟩ := Prod.mk.inj heq
        exact ⟨c.sign, comparison_of_comparison? hread, .comparison c⟩
      · obtain ⟨rfl, rfl⟩ := Prod.mk.inj heq
        exact ⟨[u], rfl, spelling_of_mark? hread⟩

/-- The first lexeme is read as far as any spelling goes, and no spelling begins with a blank. -/
theorem first?_reaches {l : Lexeme} {s rest t : Text} {u : CodeUnit} (h : Spelling l s)
    (hs : s ++ rest = u :: t) : Reaches (first? u t) l rest ∧ u.isBlank = false := by
  cases h with
  | word hw =>
    obtain ⟨w, r, hread, hle, heq⟩ := word?_reaches hw rest
    rw [hs] at hread
    exact ⟨⟨_, _, first?_of_word? hread, hle, fun hr => congrArg word (heq hr)⟩,
      (startsWord_excludes (startsWord_of_word? hread)).2.2⟩
  | @text quote t s' hquote hs' =>
    obtain ⟨rfl, rfl⟩ := List.cons.inj hs
    have hslash : quote ≠ CodeUnit.backslash := by rcases hquote with rfl | rfl <;> decide
    have hread := quoted?_of_inside hs' hslash rest
    rw [← List.singleton_append, ← List.append_assoc] at hread
    refine ⟨?_, by rcases hquote with rfl | rfl <;> decide⟩
    rw [first?_quote (by simpa [isQuote] using hquote), List.append_eq, hread]
    exact .exact _ rest
  | number hn =>
    obtain ⟨n, r, hread, hle, heq⟩ := number?_reaches hn rest
    rw [hs] at hread
    exact ⟨⟨_, _, first?_of_number? hread, hle, fun hr => congrArg number (heq hr)⟩,
      (startsNumber_excludes (startsNumber_of_number? hread)).2⟩
  | comparison c =>
    obtain ⟨c', r, hread, hle, heq⟩ := comparison?_reaches c rest
    rw [hs] at hread
    exact ⟨⟨_, _, first?_of_comparison? hread, hle, fun hr => congrArg comparison (heq hr)⟩,
      (startsComparison_excludes (startsComparison_of_comparison? hread)).2.2.2⟩
  | openParen | closeParen | comma | dot =>
    obtain ⟨rfl, rfl⟩ := List.cons.inj hs
    refine ⟨?_, by decide⟩
    rw [first?_of_mark? rfl]
    exact .exact _ rest

theorem ne_nil_of_spelling {l : Lexeme} {s : Text} (h : Spelling l s) : s ≠ [] := by
  rintro rfl
  -- before a blank the empty spelling would begin with the blank
  have hblank := (first?_reaches h (List.nil_append [0x20])).2
  exact absurd hblank (by decide)

/-- The first lexeme is the one with the longest spelling. -/
theorem first?_eq_some_iff {u : CodeUnit} {t rest : Text} {l : Lexeme} :
    first? u t = some (l, rest) ↔ ∃ s, u :: t = s ++ rest ∧ Longest l s rest := by
  constructor
  · intro h
    obtain ⟨s, hs, hl⟩ := spelling_of_first? h
    refine ⟨s, hs, hl, fun l' s' hl' hprefix => ?_⟩
    obtain ⟨rest', hs'⟩ := hprefix
    obtain ⟨⟨l₁, r, hread, hle, -⟩, -⟩ := first?_reaches hl' (hs'.trans hs.symm)
    obtain ⟨-, rfl⟩ := Prod.mk.inj (Option.some.inj (h.symm.trans hread))
    have hlen := congrArg List.length hs'
    simp only [List.length_append] at hlen
    omega
  · rintro ⟨s, hs, hl, hlongest⟩
    obtain ⟨⟨l', rest', hread, hle, heq⟩, -⟩ := first?_reaches hl hs.symm
    obtain ⟨s', hs', hl'⟩ := spelling_of_first? hread
    have hsplit : s' ++ rest' = s ++ rest := hs'.symm.trans hs
    have hle' := hlongest l' s' hl' ⟨rest', hsplit⟩
    have hlen := congrArg List.length hsplit
    simp only [List.length_append] at hlen
    -- neither spelling is longer than the other, so what they leave is the same
    obtain ⟨-, rfl⟩ := List.append_inj hsplit (by omega)
    rw [hread, heq rfl]

/-- What the scanner reads first is the longest spelling. -/
theorem longest_of_first? {l : Lexeme} {s rest t : Text} {u : CodeUnit} (hs : s ++ rest = u :: t)
    (h : first? u t = some (l, rest)) : Longest l s rest := by
  obtain ⟨s', hs', hlongest⟩ := first?_eq_some_iff.1 h
  rw [← hs] at hs'
  rwa [List.append_cancel_right hs']

/-- A word ends before any unit that no name goes on with. -/
theorem longest_word {w : Text} (hw : Name.IsWord w) {u : CodeUnit} (hu : u.continuesName = false)
    (rest : Text) : Longest (word w) w (u :: rest) := by
  have hread := word?_append hw hu rest
  obtain ⟨v, t, hsplit⟩ := List.exists_cons_of_ne_nil (ne_nil_of_spelling (.word hw))
  subst hsplit
  exact longest_of_first? rfl (first?_of_word? hread)

/-- Where a word ends, no unit follows that it could go on with. -/
theorem continuesName_of_longest {w rest : Text} {u : CodeUnit} (h : Longest (word w) w (u :: rest)) :
    u.continuesName = false := by
  obtain ⟨hspelling, hlongest⟩ := h
  cases hspelling with
  | word hw =>
    by_contra hu
    have hcontinues : u.continuesName := by simpa using hu
    have hlonger : Spelling (word (w ++ [u])) (w ++ [u]) := .word (hw.concat hcontinues)
    have hle := hlongest _ _ hlonger ⟨rest, by simp⟩
    rw [List.length_append, List.length_singleton] at hle
    omega

/-- A mark is a lexeme by itself, whatever follows. -/
theorem longest_mark {u : CodeUnit} {l : Lexeme} (h : mark? u = some l) (rest : Text) :
    Longest l [u] rest :=
  longest_of_first? rfl (first?_of_mark? h rest)

/-! ## All lexemes -/

theorem all?_blank {u : CodeUnit} (h : u.isBlank) (t : Text) : all? (u :: t) = all? t := by
  rw [all?.eq_def]
  simp [h]

theorem all?_lexeme {u : CodeUnit} {t rest : Text} {l : Lexeme} (hu : u.isBlank = false)
    (h : first? u t = some (l, rest)) : all? (u :: t) = (all? rest).map (l :: ·) := by
  rw [all?.eq_def]
  simp only [hu, Bool.false_eq_true, if_false]
  split
  · rename_i l' rest' h'
    obtain ⟨rfl, rfl⟩ := Prod.mk.inj (Option.some.inj (h.symm.trans h'))
    rfl
  · rename_i h'
    simp [h] at h'

/-- The lexemes of a text are those of its cut. -/
theorem all?_eq_some_iff {t : Text} {ls : List Lexeme} : all? t = some ls ↔ Cut t ls := by
  constructor
  · intro h
    fun_induction all? t generalizing ls with
    | case1 => exact Option.some.inj h ▸ .nil
    | case2 u t hu ih => exact .blank hu (ih h)
    | case3 u t hu l rest hread ih =>
      obtain ⟨ls, hrest, rfl⟩ := Option.map_eq_some_iff.1 h
      obtain ⟨s, hs, hl⟩ := first?_eq_some_iff.1 hread
      exact hs ▸ .lexeme hl (ih hrest)
    | case4 => simp at h
  · intro h
    induction h with
    | nil => rw [all?]
    | blank hu _ ih => rw [all?_blank hu, ih]
    | @lexeme l s t ls hl _ ih =>
      obtain ⟨u, s', rfl⟩ := List.exists_cons_of_ne_nil (ne_nil_of_spelling hl.1)
      have hread : first? u (s' ++ t) = some (l, t) := first?_eq_some_iff.2 ⟨u :: s', rfl, hl⟩
      have hblank : u.isBlank = false := (first?_reaches hl.1 (rfl : u :: s' ++ t = u :: (s' ++ t))).2
      rw [List.cons_append, all?_lexeme hblank hread, ih]
      rfl

/-- The words that the scanner finds are names, some after a dollar sign. -/
theorem isWord_of_cut {t : Text} {ls : List Lexeme} (h : Cut t ls) {w : Text} (hw : word w ∈ ls) :
    Name.IsWord w := by
  induction h with
  | nil => simp at hw
  | blank _ _ ih => exact ih hw
  | lexeme hl _ ih =>
    rcases List.mem_cons.1 hw with rfl | hw
    · cases hl.1 with
      | word hword => exact hword
    · exact ih hw

end Lexeme

end BraceTemplate
