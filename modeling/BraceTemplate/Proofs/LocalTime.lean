import BraceTemplate.Proofs.Bindings
import BraceTemplate.Proofs.Conditional
import BraceTemplate.Proofs.DateText

/-!
# Local time

The clock functions write the time without a zone, and the year as it is; a date in a template is written in
interchange form, which fills the year up to four digits. Behind the year both write the same, so everything hangs
on how long the year is.

* `Text.Follows` — a text of the shape that a form such as `HH:MM:SS` describes;
* `localText_concat`, `isoText_eq` — both texts are the year and what is common to them;
* `ofInt_eq_isoYear_iff` — the years that both write alike;
* `timestamps_agree_iff` — when the time that a template shows is the beginning of the interchange form.
-/

namespace BraceTemplate

/-! ## Forms -/

/-- Whether a unit may stand in the place of a letter of a form: the letters of the parts of a date stand for digits,
and all else for itself. -/
def CodeUnit.StandsFor (letter u : CodeUnit) : Prop :=
  if letter ∈ Text.ofString "YMDHSm" then u.isDigit else u = letter

/-- A text has the shape of a form such as `YYYY-MM-DD`. -/
abbrev Text.Follows (form t : Text) : Prop :=
  List.Forall₂ CodeUnit.StandsFor form t

namespace Text

/-- Digits have the shape of as many letters. -/
theorem follows_digits {form t : Text} (hform : form.all (· ∈ ofString "YMDHSm"))
    (hdigits : ∀ u ∈ t, u.isDigit) (hlength : form.length = t.length) : Follows form t := by
  refine List.forall₂_iff_zip.2 ⟨hlength, ?_⟩
  intro letter u h
  rcases List.of_mem_zip h with ⟨hletter, hu⟩
  rw [CodeUnit.StandsFor, if_pos (by simpa using List.all_eq_true.1 hform letter hletter)]
  exact hdigits u hu

/-- A number that fits the width has the shape of as many letters. -/
theorem follows_ofNatPadded {form : Text} (hform : form.all (· ∈ ofString "YMDHSm")) {width n : Nat}
    (hwidth : 0 < width) (hlength : form.length = width) (h : n < 10 ^ width) :
    Follows form (ofNatPadded width n) :=
  follows_digits hform (fun _ hu => isDigit_of_mem_ofNatPadded hu) (hlength.trans (length_ofNatPadded hwidth h).symm)

/-- A mark between two parts stands for itself. -/
theorem Follows.mark {u : CodeUnit} (hu : u ∉ ofString "YMDHSm") {first last s t : Text} (hs : Follows first s)
    (ht : Follows last t) : Follows (first ++ u :: last) (s ++ u :: t) := by
  have hstands : CodeUnit.StandsFor u u := by simp [CodeUnit.StandsFor, hu]
  exact List.rel_append hs (.cons hstands ht)

end Text

namespace Instant

variable (t : Instant)

/-! ## Years -/

theorem ofInt_of_nonneg {year : Int} (h : 0 ≤ year) : Text.ofInt year = Text.ofNat year.toNat := by
  obtain ⟨n, rfl⟩ := Int.eq_ofNat_of_zero_le h
  rfl

theorem ofInt_of_neg {year : Int} (h : year < 0) : Text.ofInt year = CodeUnit.minus :: Text.ofNat year.natAbs := by
  obtain ⟨n, rfl⟩ := Int.eq_negSucc_of_lt_zero h
  rfl

/-- The years that are written alike as they are and in interchange form: those of four digits, and those before
the beginning of the calendar that have six digits at least. -/
theorem ofInt_eq_isoYear_iff (year : Int) :
    Text.ofInt year = isoYear year ↔ 1000 ≤ year ∧ year ≤ 9999 ∨ year ≤ -100000 := by
  unfold isoYear
  rcases Int.lt_or_le year 0 with hneg | hnonneg
  · have hpadded : Text.ofNatPadded 6 year.natAbs = Text.ofNat year.natAbs ↔ 10 ^ 5 ≤ year.natAbs :=
      Text.ofNatPadded_eq_ofNat_iff (by decide)
    rw [if_neg (by omega), if_pos hneg, ofInt_of_neg hneg, List.cons.injEq, eq_comm (a := Text.ofNat _), hpadded]
    simp only [true_and]
    omega
  · rw [ofInt_of_nonneg hnonneg]
    by_cases hfour : year ≤ 9999
    · have hpadded : Text.ofNatPadded 4 year.toNat = Text.ofNat year.toNat ↔ 10 ^ 3 ≤ year.toNat :=
        Text.ofNatPadded_eq_ofNat_iff (by decide)
      rw [if_pos ⟨hnonneg, hfour⟩, eq_comm, hpadded]
      omega
    · -- a year that is written as it is has no plus sign
      have hplus : Text.ofNat year.toNat ≠ CodeUnit.plus :: Text.ofNatPadded 6 year.natAbs := by
        intro h
        have hdigit : CodeUnit.plus.isDigit := Text.isDigit_of_mem_ofNat (n := year.toNat) (by simp [h])
        exact absurd hdigit (by decide)
      rw [if_neg (by omega), if_neg (by omega)]
      exact ⟨fun h => absurd h hplus, by omega⟩

/-- Four units are the four digits of a year, or a minus sign and three digits. -/
theorem length_ofInt_eq_four_iff (year : Int) :
    (Text.ofInt year).length = 4 ↔ 1000 ≤ year ∧ year ≤ 9999 ∨ -999 ≤ year ∧ year ≤ -100 := by
  rcases Int.lt_or_le year 0 with hneg | hnonneg
  · have htwo := Text.length_ofNat_le_iff (n := year.natAbs) (k := 2) (by decide)
    have hthree := Text.length_ofNat_le_iff (n := year.natAbs) (k := 3) (by decide)
    rw [ofInt_of_neg hneg, List.length_cons]
    omega
  · have hthree := Text.length_ofNat_le_iff (n := year.toNat) (k := 3) (by decide)
    have hfour := Text.length_ofNat_le_iff (n := year.toNat) (k := 4) (by decide)
    rw [ofInt_of_nonneg hnonneg]
    omega

/-- A year has the shape of four digits exactly if it has four digits. -/
theorem follows_ofInt_iff (year : Int) : Text.Follows "YYYY" (Text.ofInt year) ↔ 1000 ≤ year ∧ year ≤ 9999 := by
  constructor
  · intro h
    have hlength := (length_ofInt_eq_four_iff year).1 h.length_eq.symm
    rcases Int.lt_or_le year 0 with hneg | hnonneg
    · -- the minus sign is no digit
      rw [ofInt_of_neg hneg] at h
      have hstands : CodeUnit.StandsFor (CodeUnit.ofChar 'Y') CodeUnit.minus := (List.forall₂_cons.1 h).1
      rw [CodeUnit.StandsFor, if_pos (by decide)] at hstands
      exact absurd hstands (by decide)
    · omega
  · intro h
    have hlength := (length_ofInt_eq_four_iff year).2 (Or.inl h)
    rw [ofInt_of_nonneg (by omega)] at hlength ⊢
    exact Text.follows_digits (by decide) (fun u hu => Text.isDigit_of_mem_ofNat hu) hlength.symm

/-! ## Behind the year -/

/-- What stands behind the year of the local time. -/
def localRest : Text :=
  monthDayText t ++ CodeUnit.ofChar 'T' :: (timeText t ++ CodeUnit.point :: millisecondText t)

theorem localText_eq : localText t = Text.ofInt (civilDay t).year ++ localRest t := by
  simp only [localText, localDayText, localRest, Text.concat, List.flatten_cons, List.flatten_nil, List.append_nil,
    List.append_assoc]
  rfl

/-- The interchange form has the same behind the year, and a mark for the zone. -/
theorem isoText_eq_localRest : isoText t = isoYear (civilDay t).year ++ (localRest t ++ Text.ofString "Z") := by
  simp only [isoText, localRest, Text.concat, List.flatten_cons, List.flatten_nil, List.append_nil, List.append_assoc,
    List.cons_append]
  rfl

theorem localText_eq_localDayText : localText t =
    localDayText t ++ CodeUnit.ofChar 'T' :: (timeText t ++ CodeUnit.point :: millisecondText t) := by
  rw [localText_eq, localRest, localDayText, List.append_assoc]

theorem timeText_eq : timeText t = Text.ofNatPadded 2 (hour t) ++ CodeUnit.ofChar ':' ::
    (Text.ofNatPadded 2 (minute t) ++ CodeUnit.ofChar ':' :: Text.ofNatPadded 2 (second t)) := by
  simp [timeText, List.intercalate, List.intersperse, Text.ofString, Text.ofPoint]

theorem follows_monthDayText : Text.Follows "-MM-DD" (monthDayText t) := by
  rcases civilDay_bounds t with ⟨⟨-, hmonth⟩, ⟨-, hday⟩⟩
  have hdays : Text.Follows "DD" (Text.ofNatPadded 2 (civilDay t).day) :=
    Text.follows_ofNatPadded (by decide) (by decide) rfl (by omega)
  have hmonths : Text.Follows "MM" (Text.ofNatPadded 2 (civilDay t).month) :=
    Text.follows_ofNatPadded (by decide) (by decide) rfl (by omega)
  have hboth := Text.Follows.mark (u := CodeUnit.minus) (by decide) .nil
    (Text.Follows.mark (u := CodeUnit.minus) (by decide) hmonths hdays)
  simpa [monthDayText, Text.concat, Text.ofString, Text.ofPoint] using hboth

/-- The time of day has two digits for every part, whatever the instant. -/
theorem follows_timeText : Text.Follows "HH:MM:SS" (timeText t) := by
  rcases time_lt t with ⟨hhour, hminute, hsecond, -⟩
  have hhours : Text.Follows "HH" (Text.ofNatPadded 2 (hour t)) :=
    Text.follows_ofNatPadded (by decide) (by decide) rfl (by omega)
  have hminutes : Text.Follows "MM" (Text.ofNatPadded 2 (minute t)) :=
    Text.follows_ofNatPadded (by decide) (by decide) rfl (by omega)
  have hseconds : Text.Follows "SS" (Text.ofNatPadded 2 (second t)) :=
    Text.follows_ofNatPadded (by decide) (by decide) rfl (by omega)
  rw [timeText_eq]
  exact .mark (by decide) hhours (.mark (by decide) hminutes hseconds)

theorem follows_localRest : Text.Follows "-MM-DDTHH:MM:SS.mmm" (localRest t) := by
  have hmilliseconds : Text.Follows "mmm" (millisecondText t) :=
    Text.follows_ofNatPadded (by decide) (by decide) rfl (time_lt t).2.2.2
  exact .mark (by decide) (follows_monthDayText t) (.mark (by decide) (follows_timeText t) hmilliseconds)

/-- The local day is what stands before the only letter of the local time. -/
theorem not_mem_localDayText : CodeUnit.ofChar 'T' ∉ localDayText t := by
  have hdigit : ∀ u : CodeUnit, u.isDigit → CodeUnit.ofChar 'T' ≠ u := by
    rintro u hu rfl
    exact absurd hu (by decide)
  rw [localDayText, List.mem_append, not_or]
  constructor
  · intro h
    rcases Int.lt_or_le (civilDay t).year 0 with hneg | hnonneg
    · rw [ofInt_of_neg hneg, List.mem_cons] at h
      rcases h with h | h
      · exact absurd h (by decide)
      · exact hdigit _ (Text.isDigit_of_mem_ofNat h) rfl
    · rw [ofInt_of_nonneg hnonneg] at h
      exact hdigit _ (Text.isDigit_of_mem_ofNat h) rfl
  · intro h
    simp only [monthDayText, Text.concat, List.flatten_cons, List.flatten_nil, List.append_nil, List.mem_append] at h
    rcases h with h | h | h | h
    · exact absurd h (by decide)
    · exact hdigit _ (Text.isDigit_of_mem_ofNatPadded h) rfl
    · exact absurd h (by decide)
    · exact hdigit _ (Text.isDigit_of_mem_ofNatPadded h) rfl

/-! ## The year decides -/

/-- The local time and the interchange form agree exactly if they agree on the year. -/
theorem localText_append_eq_isoText_iff : localText t ++ Text.ofString "Z" = isoText t ↔
    1000 ≤ (civilDay t).year ∧ (civilDay t).year ≤ 9999 ∨ (civilDay t).year ≤ -100000 := by
  rw [localText_eq, isoText_eq_localRest, List.append_assoc, List.append_left_inj, ofInt_eq_isoYear_iff]

/-- The local time has the documented form exactly if the year has four digits. -/
theorem follows_localText_iff : Text.Follows "YYYY-MM-DDTHH:MM:SS.mmm" (localText t) ↔
    1000 ≤ (civilDay t).year ∧ (civilDay t).year ≤ 9999 := by
  have hrest := follows_localRest t
  rw [← follows_ofInt_iff, localText_eq]
  constructor
  · intro h
    -- the rest has the length of its form, so four units are left for the year
    have hlength : (Text.ofInt (civilDay t).year).length = 4 := by
      have hboth := h.length_eq
      rw [List.length_append, ← hrest.length_eq] at hboth
      exact Nat.add_right_cancel hboth.symm
    have hyear := List.forall₂_take_append _ _ _ h
    rw [hlength] at hyear
    exact hyear
  · intro h
    exact List.rel_append h hrest

/-- The local day has ten units exactly if the year has four. -/
theorem localDayText_eq_take_iff : localDayText t = (localText t).take 10 ↔
    1000 ≤ (civilDay t).year ∧ (civilDay t).year ≤ 9999 ∨ -999 ≤ (civilDay t).year ∧ (civilDay t).year ≤ -100 := by
  have hday : (localDayText t).length = (Text.ofInt (civilDay t).year).length + 6 := by
    rw [localDayText, List.length_append, ← (follows_monthDayText t).length_eq]
    rfl
  have hlonger : 10 ≤ (localText t).length := by
    rw [localText_eq, List.length_append, ← (follows_localRest t).length_eq]
    exact Nat.le_add_left_of_le (by decide)
  rw [← length_ofInt_eq_four_iff]
  constructor
  · intro h
    have hlength := congrArg List.length h
    rw [List.length_take, Nat.min_eq_left hlonger] at hlength
    omega
  · intro h
    rw [localText_eq_localDayText, List.take_left' (by omega)]

/-- Up to the year 9999 nothing but zeros in front of the year is missing in the local time. -/
theorem isoText_eq_zeros (hfrom : 0 ≤ (civilDay t).year) (hto : (civilDay t).year ≤ 9999) : isoText t =
    List.replicate (4 - (Text.ofInt (civilDay t).year).length) CodeUnit.zero ++ (localText t ++ Text.ofString "Z") := by
  rw [isoText_eq_localRest, localText_eq, isoYear, if_pos ⟨hfrom, hto⟩, ofInt_of_nonneg hfrom, Text.ofNatPadded]
  simp only [List.append_assoc]

end Instant

/-! ## The clock in a template -/

section Rendering

variable {σ : Type}

/-- A call without arguments opens no block, as there is no blank in it. -/
theorem Tag.keyword?_emptyCall {name : Text} (hname : Name.IsFree name) (kind : BlockKind) :
    keyword? (name ++ Text.ofString "()") ≠ some (.opens kind) := by
  have hblank : ∀ u ∈ name ++ Text.ofString "()", u.isBlank = false := by
    rcases Name.exists_cons_of_isValid hname.1 with ⟨_, _, -, -, hall⟩
    rw [List.forall_mem_append]
    have hmarks : (Text.ofString "()").all fun u => !u.isBlank := by decide
    exact ⟨fun u hu => CodeUnit.isBlank_of_continuesName (hall u hu), by simpa using hmarks⟩
  simp only [keyword?, Text.trim_of_forall hblank, condition?, loop?, afterWord?_of_forall hblank, Option.isSome_none,
    Bool.false_eq_true, if_false]
  split_ifs <;> simp

/-- A function of the clock that is called without arguments shows what it makes of the time. -/
theorem Template.answer_clockCall {registry : Registry σ} {name : Text} {clock : Clock σ} {format : Date → Text}
    (hname : Name.IsFree name)
    (hfunction : registry.get? name = some (Builtin.plain name (Builtin.clockCallback clock format))) (ctx : Context)
    (host : σ) : (render registry ctx (ofSource (tagSource (name ++ Text.ofString "()"))) host).answer =
      .ok (format (clock host)) := by
  have hbody : Balanced (name ++ Text.ofString "()") :=
    (balanced_of_forall (Name.ne_brace_of_isValid hname.1)).append (balanced_of_all (by decide))
  have hread : Expression.ofText? (name ++ Text.ofString "()") = some (.operand (.call ⟨name, []⟩)) :=
    Expression.ofText?_eq_some_iff.2 (Expression.isSpelled_emptyCall hname)
  have hplaceholder : (Token.tag (name ++ Text.ofString "()") .start).placeholder? =
      some (.operand (.call ⟨name, []⟩)) := by
    rw [Token.placeholder?, hread]
    rfl
  have henough : (Builtin.plain name (Builtin.clockCallback clock format)).minArguments.gtNat 0 = false := by
    simp only [Builtin.plain, Builtin.clockCallback]
    decide +kernel
  have hcall : Call.evaluate registry ctx ⟨name, []⟩ = (do
      let result ← (Builtin.plain name (Builtin.clockCallback clock format)).invoke []
      return result.filter fun v => !(v.isNull && [].any Option.isNone)) :=
    Call.evaluate_of_accepted hfunction henough rfl
  have hinvoke : ((Builtin.plain name (Builtin.clockCallback clock format)).invoke [] host).answer =
      .ok (some (.text (format (clock host)))) := by
    simp only [Definition.invoke, Builtin.plain, Builtin.clockCallback, Builtin.textResult, Data.toValue_ofValue]
    rfl
  have hvalue : ((Call.evaluate registry ctx ⟨name, []⟩) host).answer = .ok (some (.text (format (clock host)))) := by
    rw [hcall, Render.bind_of_ok hinvoke]
    rfl
  rw [render_tagSource registry ctx hbody (Tag.keyword?_emptyCall hname), Token.shown, hplaceholder]
  simp only [Expression.evaluate, Operand.evaluate]
  rw [Render.bind_of_ok hvalue]
  rfl

/-- The time as a template shows it and the interchange form of the same date. With a mark for the zone behind it, the
local time is the interchange form exactly if the year has four digits, or lies before the beginning of the calendar and
has six at least. It has the documented form `YYYY-MM-DDTHH:MM:SS.mmm` exactly if the year has four digits; then its
first ten units are the day. The time of day is always what stands behind the `T` in eight units, and up to the
year 9999 nothing but zeros in front of the year is missing. -/
theorem timestamps_agree_iff (functions : Registry σ) (style : FunctionStyle) (clock : Clock σ) (ctx : Context)
    (host : σ) {t : Instant} (hclock : clock host = some t) :
    let shown := fun source : Text =>
      (Template.render (functions.registerBuiltins style clock) ctx (Template.ofSource source) host).answer
    let year := t.civilDay.year
    let now := t.localText
    let today := t.localDayText
    let time := t.timeText
    let iso := t.isoText
    (shown "{now()}" = .ok now ∧ shown "{today()}" = .ok today ∧ shown "{time()}" = .ok time ∧
      ∀ heap, Data.toValue ⟨heap, .date (clock host)⟩ = .ok (.text iso)) ∧
    (now ++ Text.ofString "Z" = iso ↔ 1000 ≤ year ∧ year ≤ 9999 ∨ year ≤ -100000) ∧
    (Text.Follows "YYYY-MM-DDTHH:MM:SS.mmm" now ↔ 1000 ≤ year ∧ year ≤ 9999) ∧
    (today = now.take 10 ↔ 1000 ≤ year ∧ year ≤ 9999 ∨ -999 ≤ year ∧ year ≤ -100) ∧
    (Text.Follows "HH:MM:SS" time ∧ CodeUnit.ofChar 'T' ∉ today ∧ ∃ milliseconds,
      now = today ++ CodeUnit.ofChar 'T' :: (time ++ CodeUnit.point :: milliseconds)) ∧
    (0 ≤ year → year ≤ 9999 → iso =
      List.replicate (4 - (Text.ofInt year).length) CodeUnit.zero ++ (now ++ Text.ofString "Z")) := by
  intro shown year now today time iso
  have hshown : ∀ (name : Text) (format : Date → Text), Name.IsFree name →
      (functions.registerBuiltins style clock).get? name =
        some (Builtin.plain name (Builtin.clockCallback clock format)) →
      shown (tagSource (name ++ Text.ofString "()")) = .ok (format (some t)) := by
    intro name format hname hfunction
    rw [← hclock]
    exact Template.answer_clockCall hname hfunction ctx host
  have hfunction : ∀ (name : Text) (d : Definition σ),
      (Builtin.definitions style clock).reverse.find? (fun d => d.name = name) = some d →
      (functions.registerBuiltins style clock).get? name = some d := by
    intro name d h
    rw [Registry.registerBuiltins, Registry.get?_foldl_set, h, Option.some_or]
  refine ⟨⟨?_, ?_, ?_, ?_⟩, t.localText_append_eq_isoText_iff, t.follows_localText_iff, t.localDayText_eq_take_iff,
    ⟨t.follows_timeText, t.not_mem_localDayText, _, t.localText_eq_localDayText⟩, t.isoText_eq_zeros⟩
  · exact hshown "now" Date.timestampText (Registry.isCallable_iff_isFree.1 (by decide)) (hfunction _ _ rfl)
  · exact hshown "today" Date.dayText (Registry.isCallable_iff_isFree.1 (by decide)) (hfunction _ _ rfl)
  · exact hshown "time" Date.timeText (Registry.isCallable_iff_isFree.1 (by decide)) (hfunction _ _ rfl)
  · intro heap
    rw [hclock, Data.toValue, Heap.toValue]

/-- The last millisecond of a leap day. -/
theorem timestamps_agree_iff_leap_day :
    let clock : Clock Unit := fun _ => some 951868799999
    let registry := Registry.empty.registerBuiltins ⟨"- ", "..."⟩ clock
    clock () = some 951868799999 ∧
    (Template.render registry .empty (Template.ofSource "{now()}") ()).answer =
      .ok (Text.ofString "2000-02-29T23:59:59.999") ∧
    Data.toValue ⟨#[], .date (clock ())⟩ =
      .ok (.text (Text.ofString "2000-02-29T23:59:59.999" ++ Text.ofString "Z")) := by
  intro clock registry
  have hclock : clock () = some 951868799999 := rfl
  have hagree := timestamps_agree_iff .empty ⟨"- ", "..."⟩ clock .empty () hclock
  have hnow : Instant.localText 951868799999 = Text.ofString "2000-02-29T23:59:59.999" := by decide +kernel
  have hyear : (Instant.civilDay 951868799999).year = 2000 := by decide +kernel
  rcases hagree with ⟨⟨hshown, -, -, hvalue⟩, hiso, -⟩
  refine ⟨hclock, ?_, ?_⟩
  · rw [← hnow]
    exact hshown
  · rw [← hnow, hiso.2 (by omega)]
    exact hvalue #[]

end Rendering

/-- The day before the year 1000, which is in the calendar: its year is not filled up. -/
theorem early_year_is_not_filled_up :
    let t : Instant := -30610224000001
    (t.isValid ∧ t.civilDay = ⟨999, 12, 31⟩) ∧
    Date.timestampText (some t) = Text.ofString "999-12-31T23:59:59.999" ∧
    Data.toValue ⟨#[], .date (some t)⟩ = .ok (.text (Text.ofString "0999-12-31T23:59:59.999Z")) ∧
    Date.timestampText (some t) ++ Text.ofString "Z" ≠ t.isoText := by
  intro t
  have hlocal : Date.timestampText (some t) = Text.ofString "999-12-31T23:59:59.999" := by decide +kernel
  have hiso : t.isoText = Text.ofString "0999-12-31T23:59:59.999Z" := by decide +kernel
  refine ⟨by decide +kernel, hlocal, ?_, ?_⟩
  · rw [Data.toValue, Heap.toValue, hiso]
  · rw [hlocal, hiso]
    decide

end BraceTemplate
