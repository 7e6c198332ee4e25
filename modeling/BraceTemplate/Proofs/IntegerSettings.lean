import BraceTemplate.Proofs.Configurations
import BraceTemplate.Proofs.Trimming

/-!
# Settings that are integers

An integer is spelled by decimal digits, perhaps after a sign. A setting is read as the integer that its text begins
with, blanks apart; what follows the digits is not looked at. So a setting is read as it is written exactly if nothing
but blanks follow, and the size of the cache is taken from a text that denotes no integer as well.

* `leadingInteger?_eq_some_iff` — what is read is the integer that the text begins with;
* `Begins.isWrittenIn_iff` — when the text denotes this integer;
* `Environment.integers_are_begun` — settings, and the size of the cache that they give.
-/

namespace BraceTemplate

namespace Number

/-- How the sign of a number is written. -/
inductive Sign : Bool → Text → Prop
  | none : Sign false []
  | plus : Sign false [CodeUnit.plus]
  | minus : Sign true [CodeUnit.minus]

/-- A text that spells an integer, and the double nearest to it. -/
inductive IsInteger : Text → Number → Prop
  | digits {negative : Bool} {sign digits : Text} : Sign negative sign → digits ≠ [] → (∀ u ∈ digits, u.isDigit) →
      IsInteger (sign ++ digits) (ofRatio negative (Text.digitsValue digits) 1)

/-- A text that begins with an integer, blanks apart, and what follows its last digit. -/
inductive Begins : Text → Number → Text → Prop
  | mk {blanks spelled rest : Text} {n : Number} : (∀ u ∈ blanks, u.isBlank) → IsInteger spelled n →
      (∀ u ∈ rest.head?, u.isDigit = false) → Begins (blanks ++ spelled ++ rest) n rest

/-- A text that is an integer, blanks around it apart. -/
abbrev IsWrittenIn (n : Number) (t : Text) : Prop :=
  IsInteger t.trim n

theorem ofDigits_whole (negative : Bool) (digits : Text) :
    ofDigits negative digits [] 0 = ofRatio negative (Text.digitsValue digits) 1 := by
  rw [ofDigits, List.append_nil]
  exact ofDecimal_zero negative _

/-! ## The integer at the start -/

theorem spanDigits_append {digits rest : Text} (hdigits : ∀ u ∈ digits, u.isDigit)
    (hrest : ∀ u ∈ rest.head?, u.isDigit = false) : spanDigits (digits ++ rest) = (digits, rest) := by
  have hend : rest.takeWhile CodeUnit.isDigit = [] ∧ rest.dropWhile CodeUnit.isDigit = rest := by
    cases rest with
    | nil => exact ⟨rfl, rfl⟩
    | cons u rest =>
      have hu : u.isDigit = false := hrest u rfl
      constructor
      · exact List.takeWhile_cons_of_neg (by simp [hu])
      · exact List.dropWhile_cons_of_neg (by simp [hu])
  rw [spanDigits, List.takeWhile_append_of_pos hdigits, List.dropWhile_append_of_pos hdigits, hend.1, hend.2,
    List.append_nil]

/-- The digits at the start of a text as an integer of a sign. -/
def digitsAtStart? (negative : Bool) (t : Text) : Option Number :=
  match spanDigits t with
  | ([], _) => none
  | (digits, _) => some (ofDigits negative digits [] 0)

theorem digitsAtStart?_eq_some_iff {negative : Bool} {t : Text} {n : Number} :
    digitsAtStart? negative t = some n ↔ ∃ digits rest, t = digits ++ rest ∧ digits ≠ [] ∧
      (∀ u ∈ digits, u.isDigit) ∧ (∀ u ∈ rest.head?, u.isDigit = false) ∧
      ofRatio negative (Text.digitsValue digits) 1 = n := by
  constructor
  · intro hread
    have hsplit := List.takeWhile_append_dropWhile (p := CodeUnit.isDigit) (l := t)
    have hdigits : ∀ u ∈ t.takeWhile CodeUnit.isDigit, u.isDigit := fun u hu => List.mem_takeWhile_imp hu
    have hrest : ∀ u ∈ (t.dropWhile CodeUnit.isDigit).head?, u.isDigit = false := by
      intro u hu
      have hnot := List.head?_dropWhile_not CodeUnit.isDigit t
      rwa [hu] at hnot
    unfold digitsAtStart? spanDigits at hread
    split at hread
    · exact nomatch hread
    · rename_i digits rest hne heq
      obtain ⟨rfl, rfl⟩ := Prod.mk.inj heq
      rw [ofDigits_whole] at hread
      exact ⟨_, _, hsplit.symm, hne, hdigits, hrest, Option.some.inj hread⟩
  · rintro ⟨digits, rest, rfl, hne, hdigits, hrest, rfl⟩
    rw [digitsAtStart?, spanDigits_append hdigits hrest]
    cases digits with
    | nil => exact absurd rfl hne
    | cons u digits => exact congrArg some (ofDigits_whole negative _)

/-- After its blanks a text has a sign, perhaps none, and what is read are the digits after it. -/
theorem leadingInteger?_eq (t : Text) : ∃ negative sign after, Sign negative sign ∧ t.trimStart = sign ++ after ∧
    (sign = [] → ∀ u ∈ after.head?, u ≠ CodeUnit.plus ∧ u ≠ CodeUnit.minus) ∧
    leadingInteger? t = digitsAtStart? negative after := by
  simp only [leadingInteger?]
  generalize t.trimStart = s
  cases s with
  | nil => exact ⟨false, [], [], .none, rfl, nofun, rfl⟩
  | cons u after =>
    by_cases hminus : u = CodeUnit.minus
    · refine ⟨true, [CodeUnit.minus], after, .minus, congrArg (· :: after) hminus, nofun, ?_⟩
      simp only [if_pos hminus]
      rfl
    · by_cases hplus : u = CodeUnit.plus
      · refine ⟨false, [CodeUnit.plus], after, .plus, congrArg (· :: after) hplus, nofun, ?_⟩
        simp only [if_neg hminus, if_pos hplus]
        rfl
      · refine ⟨false, [], u :: after, .none, rfl, ?_, ?_⟩
        · rintro - v ⟨⟩
          exact ⟨hplus, hminus⟩
        · simp only [if_neg hminus, if_neg hplus]
          rfl

/-- Whether a text goes on with a sign is seen at its first unit. -/
theorem Sign.unique {negative negative' : Bool} {sign sign' a b : Text} (h : Sign negative sign)
    (h' : Sign negative' sign') (heq : sign ++ a = sign' ++ b)
    (ha : sign = [] → ∀ u ∈ a.head?, u ≠ CodeUnit.plus ∧ u ≠ CodeUnit.minus)
    (hb : sign' = [] → ∀ u ∈ b.head?, u ≠ CodeUnit.plus ∧ u ≠ CodeUnit.minus) : negative = negative' ∧ a = b := by
  cases h with
  | none =>
    cases h' with
    | none => exact ⟨rfl, heq⟩
    | plus =>
      obtain rfl : a = CodeUnit.plus :: b := heq
      exact absurd rfl (ha rfl CodeUnit.plus rfl).1
    | minus =>
      obtain rfl : a = CodeUnit.minus :: b := heq
      exact absurd rfl (ha rfl CodeUnit.minus rfl).2
  | plus =>
    cases h' with
    | none =>
      obtain rfl : CodeUnit.plus :: a = b := heq
      exact absurd rfl (hb rfl CodeUnit.plus rfl).1
    | plus => exact ⟨rfl, (List.cons.inj heq).2⟩
    | minus => exact absurd (List.cons.inj heq).1 (by decide)
  | minus =>
    cases h' with
    | none =>
      obtain rfl : CodeUnit.minus :: a = b := heq
      exact absurd rfl (hb rfl CodeUnit.minus rfl).2
    | plus => exact absurd (List.cons.inj heq).1 (by decide)
    | minus => exact ⟨rfl, (List.cons.inj heq).2⟩

theorem not_sign_of_isDigit {u : CodeUnit} (h : u.isDigit) : u ≠ CodeUnit.plus ∧ u ≠ CodeUnit.minus := by
  constructor
  · rintro rfl
    exact absurd h (by decide)
  · rintro rfl
    exact absurd h (by decide)

theorem Sign.not_isBlank {negative : Bool} {sign : Text} (h : Sign negative sign) : ∀ u ∈ sign, u.isBlank = false := by
  cases h with
  | none => exact nofun
  | plus => exact List.forall_mem_singleton.2 rfl
  | minus => exact List.forall_mem_singleton.2 rfl

theorem IsInteger.not_isBlank {t : Text} {n : Number} (h : IsInteger t n) : t ≠ [] ∧ ∀ u ∈ t, u.isBlank = false := by
  obtain ⟨hsign, hne, hdigits⟩ := h
  refine ⟨List.append_ne_nil_of_right_ne_nil _ hne, ?_⟩
  intro u hu
  rcases List.mem_append.1 hu with hu | hu
  · exact hsign.not_isBlank u hu
  · exact CodeUnit.isBlank_of_isDigit (hdigits u hu)

/-- Blanks apart, a text that begins with an integer is a sign, digits and the rest. -/
theorem Begins.trimStart_eq {t rest : Text} {n : Number} (h : Begins t n rest) : ∃ negative sign digits,
    Sign negative sign ∧ t.trimStart = sign ++ (digits ++ rest) ∧ digits ≠ [] ∧ (∀ u ∈ digits, u.isDigit) ∧
    (sign = [] → ∀ u ∈ (digits ++ rest).head?, u ≠ CodeUnit.plus ∧ u ≠ CodeUnit.minus) ∧
    (∀ u ∈ rest.head?, u.isDigit = false) ∧ ofRatio negative (Text.digitsValue digits) 1 = n := by
  obtain ⟨hblanks, hinteger, hrest⟩ := h
  obtain ⟨hspelled, hnotBlank⟩ := hinteger.not_isBlank
  obtain @⟨negative, sign, digits, hsign, hne, hdigits⟩ := hinteger
  refine ⟨negative, sign, digits, hsign, ?_, hne, hdigits, ?_, hrest, rfl⟩
  · rw [List.append_assoc, Text.trimStart_append hblanks, List.append_assoc]
    intro u hu
    rw [List.head?_append_of_ne_nil _ hspelled] at hu
    exact hnotBlank u (List.mem_of_mem_head? hu)
  · intro _ u hu
    rw [List.head?_append_of_ne_nil _ hne] at hu
    exact not_sign_of_isDigit (hdigits u (List.mem_of_mem_head? hu))

/-- A text begins with one integer at most. -/
theorem Begins.unique {t rest rest' : Text} {n n' : Number} (h : Begins t n rest) (h' : Begins t n' rest') :
    n = n' ∧ rest = rest' := by
  obtain ⟨negative, sign, digits, hsign, htrim, -, hdigits, hfirst, hrest, rfl⟩ := h.trimStart_eq
  obtain ⟨negative', sign', digits', hsign', htrim', -, hdigits', hfirst', hrest', rfl⟩ := h'.trimStart_eq
  obtain ⟨rfl, heq⟩ := hsign.unique hsign' (htrim.symm.trans htrim') hfirst hfirst'
  have hspan := congrArg spanDigits heq
  rw [spanDigits_append hdigits hrest, spanDigits_append hdigits' hrest'] at hspan
  obtain ⟨rfl, rfl⟩ := Prod.mk.inj hspan
  exact ⟨rfl, rfl⟩

/-- What is read is the integer that the text begins with. -/
theorem leadingInteger?_eq_some_iff {t : Text} {n : Number} : leadingInteger? t = some n ↔ ∃ rest, Begins t n rest := by
  obtain ⟨negative, sign, after, hsign, htrim, hfirst, hread⟩ := leadingInteger?_eq t
  rw [hread, digitsAtStart?_eq_some_iff]
  constructor
  · rintro ⟨digits, rest, rfl, hne, hdigits, hrest, rfl⟩
    have ht : t = t.takeWhile CodeUnit.isBlank ++ (sign ++ digits) ++ rest := by
      rw [List.append_assoc, List.append_assoc, ← htrim]
      exact List.takeWhile_append_dropWhile.symm
    rw [ht]
    exact ⟨rest, .mk (fun u hu => List.mem_takeWhile_imp hu) (.digits hsign hne hdigits) hrest⟩
  · rintro ⟨rest, hbegins⟩
    obtain ⟨negative', sign', digits, hsign', htrim', hne, hdigits, hfirst', hrest, rfl⟩ := hbegins.trimStart_eq
    obtain ⟨rfl, rfl⟩ := hsign.unique hsign' (htrim.symm.trans htrim') hfirst hfirst'
    exact ⟨digits, rest, rfl, hne, hdigits, hrest, rfl⟩

/-- The integer that a text begins with is what it denotes exactly if nothing but blanks follow. -/
theorem Begins.isWrittenIn_iff {t rest : Text} {n m : Number} (h : Begins t n rest) :
    m.IsWrittenIn t ↔ (∀ u ∈ rest, u.isBlank) ∧ m = n := by
  constructor
  · intro hwritten
    obtain ⟨before, after, heq, hbefore, hafter⟩ := t.exists_eq_append_trim
    have hend : ∀ u ∈ after.head?, u.isDigit = false := by
      intro u hu
      have hblank := hafter u (List.mem_of_mem_head? hu)
      apply Bool.eq_false_iff.2
      intro hdigit
      rw [CodeUnit.isBlank_of_isDigit hdigit] at hblank
      exact Bool.false_ne_true hblank
    have hbegins : Begins t m after := by
      rw [heq, ← List.append_assoc]
      exact .mk hbefore hwritten hend
    obtain ⟨rfl, rfl⟩ := hbegins.unique h
    exact ⟨hafter, rfl⟩
  · rintro ⟨hblank, rfl⟩
    obtain ⟨hbefore, hinteger, -⟩ := h
    rw [IsWrittenIn, List.append_assoc, Text.trim_append_blanks hbefore hinteger.not_isBlank.2 hblank]
    exact hinteger

end Number

/-! ## Settings -/

namespace Environment

variable {env : Environment} {key : Text}

theorem read?_eq_none_iff : env.read? key = none ↔
    Mapping.get? env key = none ∨ Mapping.get? env key = some [] := by
  rw [read?]
  cases Mapping.get? env key with
  | none => simp
  | some value => cases value <;> simp

theorem read?_eq_some_iff {value : Text} :
    env.read? key = some value ↔ Mapping.get? env key = some value ∧ value ≠ [] := by
  rw [read?, Option.filter_eq_some_iff]
  simp

/-- Without a text the standard value is taken. -/
theorem integer_of_unset (standard : Number) (h : env.read? key = none) :
    env.integer key standard = .ok standard := by
  rw [integer, h]

theorem integer_eq_ok_iff {value : Text} (h : env.read? key = some value) {standard n : Number} :
    env.integer key standard = .ok n ↔ ∃ rest, Number.Begins value n rest := by
  rw [← Number.leadingInteger?_eq_some_iff]
  cases hread : Number.leadingInteger? value with
  | none => simp [integer, h, hread]
  | some m => simp [integer, h, hread]

theorem integer_eq_error_iff {value : Text} (h : env.read? key = some value) {standard : Number} {e : SettingError} :
    env.integer key standard = .error e ↔
      (∀ n rest, ¬ Number.Begins value n rest) ∧ e = .notInteger key value := by
  have hnone : Number.leadingInteger? value = none ↔ ∀ n rest, ¬ Number.Begins value n rest := by
    rw [Option.eq_none_iff_forall_ne_some]
    exact forall_congr' fun n => Number.leadingInteger?_eq_some_iff.not.trans not_exists
  rw [← hnone]
  cases hread : Number.leadingInteger? value with
  | none => simp [integer, h, hread, eq_comm]
  | some m => simp [integer, h, hread]

end Environment

/-! ## The size of the cache -/

namespace EngineConfig

/-- The variable that sets the size of the cache. -/
abbrev sizeKey : Text := "TEMPLATE_CACHE_SIZE"

/-- The configuration of a cache, with the other settings as they are by default. -/
def description (enabled : Bool) (size : Number) : Value :=
  .mapping [("cache", .mapping [("enabled", .bool enabled), ("maxEntries", .number size)]),
    ("functions", standard.functions.toValue)]

theorem loadEnvironment_eq_ok_iff {env : Environment} {c : EngineConfig} : loadEnvironment env = .ok c ↔
    ∃ enabled size, env.bool "TEMPLATE_CACHE_ENABLED" standard.cache.enabled = .ok enabled ∧
      env.integer sizeKey (.ofNat standard.cache.maxEntries) = .ok size ∧
      load (.ofValue (description enabled size)) = .ok c := by
  cases hbool : env.bool "TEMPLATE_CACHE_ENABLED" standard.cache.enabled with
  | error e => simp [loadEnvironment, ofEnvironment, hbool, bind, Except.bind]
  | ok enabled =>
    cases hsize : env.integer sizeKey (.ofNat standard.cache.maxEntries) with
    | error e => simp [loadEnvironment, ofEnvironment, hbool, hsize, bind, Except.bind]
    | ok size =>
      have hload : loadEnvironment env = (load (.ofValue (description enabled size))).mapError .config := by
        simp only [loadEnvironment, ofEnvironment, hbool, hsize, bind, Except.bind]
        rfl
      rw [hload]
      cases hresult : load (.ofValue (description enabled size)) with
      | error e => simp [Except.mapError, hresult]
      | ok c' => simp [Except.mapError, hresult]

theorem size_of_loadEnvironment {env : Environment} {c : EngineConfig} (h : loadEnvironment env = .ok c) :
    ∃ size, env.integer sizeKey (.ofNat standard.cache.maxEntries) = .ok size ∧
      size.toInt? = some (c.cache.maxEntries : Int) := by
  obtain ⟨enabled, size, -, hsize, hload⟩ := loadEnvironment_eq_ok_iff.1 h
  obtain ⟨n, hn, hint⟩ := (check_eq_valid_iff.1 (load_eq_ok_iff.1 hload)).maxEntries
  obtain rfl : size = n := Value.number.inj (Datum.value.inj hn)
  exact ⟨size, hsize, hint⟩

end EngineConfig

/-- A setting that is an integer is the standard value where nothing is set, and otherwise the integer that its text
begins with; a text that begins with none is refused. The text denotes this integer exactly if nothing but blanks
follow it. The size of a cache is read in this way as well. -/
theorem Environment.integers_are_begun (env : Environment) (key : Text) (standard : Number) :
    (Mapping.get? env key = none ∨ Mapping.get? env key = some [] → env.integer key standard = .ok standard) ∧
    (∀ value, Mapping.get? env key = some value → value ≠ [] →
      (∀ n, env.integer key standard = .ok n ↔ ∃ rest, Number.Begins value n rest) ∧
      (∀ e, env.integer key standard = .error e ↔
        (∀ n rest, ¬ Number.Begins value n rest) ∧ e = .notInteger key value) ∧
      ∀ n rest, Number.Begins value n rest → ∀ m, m.IsWrittenIn value ↔ (∀ u ∈ rest, u.isBlank) ∧ m = n) ∧
    ∀ c, EngineConfig.loadEnvironment env = .ok c →
      (Mapping.get? env EngineConfig.sizeKey = none ∨ Mapping.get? env EngineConfig.sizeKey = some [] →
        c.cache.maxEntries = EngineConfig.standard.cache.maxEntries) ∧
      ∀ size, Mapping.get? env EngineConfig.sizeKey = some size → size ≠ [] →
        ∃ n rest, Number.Begins size n rest ∧ n.toInt? = some (c.cache.maxEntries : Int) ∧
          (n.IsWrittenIn size ↔ ∀ u ∈ rest, u.isBlank) := by
  refine ⟨?_, ?_, ?_⟩
  · intro hunset
    exact integer_of_unset standard (read?_eq_none_iff.2 hunset)
  · intro value hvalue hne
    have hread : env.read? key = some value := read?_eq_some_iff.2 ⟨hvalue, hne⟩
    exact ⟨fun n => integer_eq_ok_iff hread, fun e => integer_eq_error_iff hread,
      fun n rest hbegins m => hbegins.isWrittenIn_iff⟩
  · intro c hload
    obtain ⟨n, hn, hint⟩ := EngineConfig.size_of_loadEnvironment hload
    constructor
    · intro hunset
      rw [integer_of_unset _ (read?_eq_none_iff.2 hunset)] at hn
      obtain rfl := Except.ok.inj hn
      rw [Number.toInt?_ofNat_of_lt (by decide)] at hint
      exact Subtype.ext (Int.ofNat.inj (Option.some.inj hint)).symm
    · intro size hsize hne
      obtain ⟨rest, hbegins⟩ := (integer_eq_ok_iff (read?_eq_some_iff.2 ⟨hsize, hne⟩)).1 hn
      exact ⟨n, rest, hbegins, hint, hbegins.isWrittenIn_iff.trans (and_iff_left rfl)⟩

/-- A text that is not an integer, and the size of the cache that is read from it. -/
theorem Environment.partly_numeric_size_is_read :
    let env : Environment := [(EngineConfig.sizeKey, "12abc")]
    env.integer EngineConfig.sizeKey (.ofNat 256) = .ok (.ofNat 12) ∧ (∀ n : Number, ¬ n.IsWrittenIn "12abc") ∧
      ∃ c, EngineConfig.loadEnvironment env = .ok c ∧ c.cache.maxEntries = (12 : Nat) := by
  intro env
  have hdigits : ∀ u ∈ ("12" : Text), u.isDigit := List.all_eq_true.1 (by decide)
  have hletter : ∀ u ∈ ("abc" : Text).head?, u.isDigit = false := by
    rintro u ⟨⟩
    rfl
  have hinteger : Number.IsInteger "12" (.ofNat 12) :=
    @Number.IsInteger.digits false [] "12" .none (by decide) hdigits
  have hbegins : Number.Begins "12abc" (.ofNat 12) "abc" :=
    @Number.Begins.mk [] "12" "abc" _ (List.forall_mem_nil _) hinteger hletter
  have hread : env.integer EngineConfig.sizeKey (.ofNat 256) = .ok (.ofNat 12) :=
    (@integer_eq_ok_iff env _ _ rfl _ _).2 ⟨_, hbegins⟩
  refine ⟨hread, ?_, ?_⟩
  · intro n hwritten
    have hblank := (hbegins.isWrittenIn_iff.1 hwritten).1
    have hall : ("abc" : Text).all CodeUnit.isBlank := List.all_eq_true.2 hblank
    exact absurd hall (by decide)
  · have htwelve : (Number.ofNat 12).toInt? = some ((12 : Nat) : Int) := Number.toInt?_ofNat_of_lt (by decide)
    let c : EngineConfig := ⟨⟨true, ⟨12, by decide⟩⟩, EngineConfig.standard.functions⟩
    have hload : EngineConfig.load (.ofValue c.toValue) = .ok c :=
      EngineConfig.load_eq_ok_iff.2 (EngineConfig.check_eq_valid_iff.2 (EngineConfig.describes_toValue htwelve))
    exact ⟨c, EngineConfig.loadEnvironment_eq_ok_iff.2 ⟨true, .ofNat 12, rfl, hread, hload⟩, rfl⟩

end BraceTemplate
