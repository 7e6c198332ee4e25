import BraceTemplate.Date

/-!
# The calendar and back

A count of days becomes a day of the calendar, and that day gives the count again, for all years before and after. In an
era of four hundred years, which are alike, the year is found by a division that corrects the count for leap days; it
comes out right because the corrected count never falls and is exact at the first and the last day of every year.

* `CivilDay.yearOfEra_spec` — the year that the division finds begins no later than the day, and within a year of it;
* `CivilDay.month_ofDays`, `CivilDay.day_ofDays`, `CivilDay.year_ofDays` — the parts of a day have the sizes they should;
* `CivilDay.toDays_ofDays` — days are counted back;
* `Instant.eq_parts` — an instant is made up of its day and its time of day.
-/

namespace BraceTemplate

namespace CivilDay

/-! ## Years of an era -/

/-- The days of an era before one of its years. -/
def daysBefore (year : Nat) : Nat :=
  365 * year + year / 4 - year / 100

/-- The count of days in an era without the leap days before. -/
def corrected (dayOfEra : Nat) : Nat :=
  dayOfEra - dayOfEra / 1460 + dayOfEra / 36524 - dayOfEra / 146096

theorem corrected_mono {a b : Nat} (h : a ≤ b) (hb : b ≤ 146096) : corrected a ≤ corrected b := by
  unfold corrected
  omega

theorem daysBefore_succ_le (year : Nat) : daysBefore (year + 1) ≤ daysBefore year + 366 := by
  unfold daysBefore
  omega

/-- At the first and the last day of a year the corrected count has as many days as the years before, and as all years
up to its end. -/
theorem corrected_bounds : ∀ year < 400,
    365 * year ≤ corrected (daysBefore year) ∧ corrected (daysBefore (year + 1) - 1) < 365 * (year + 1) := by
  decide +kernel

/-- The year that is found begins no later than the day, and the day falls into it. -/
theorem yearOfEra_spec {dayOfEra : Nat} (h : dayOfEra ≤ 146096) :
    corrected dayOfEra / 365 < 400 ∧ daysBefore (corrected dayOfEra / 365) ≤ dayOfEra ∧
      dayOfEra ≤ daysBefore (corrected dayOfEra / 365) + 365 := by
  have hlast : corrected dayOfEra ≤ corrected 146096 := corrected_mono h (Nat.le_refl _)
  have hlt : corrected dayOfEra / 365 < 400 := by
    have hvalue : corrected 146096 = 145999 := rfl
    omega
  generalize hyear : corrected dayOfEra / 365 = year at hlt
  refine ⟨hlt, ?_, ?_⟩
  · -- a day before the year would lie in an earlier one
    apply Nat.le_of_not_lt
    intro hbefore
    cases year with
    | zero => exact absurd hbefore (Nat.not_lt_zero _)
    | succ year =>
      have hend := (corrected_bounds year (by omega)).2
      have hmono : corrected dayOfEra ≤ corrected (daysBefore (year + 1) - 1) :=
        corrected_mono (by omega) (by unfold daysBefore; omega)
      omega
  · -- a day behind the year would lie in a later one
    apply Nat.le_of_not_lt
    intro hbehind
    have hnext := daysBefore_succ_le year
    by_cases hlater : year + 1 < 400
    · have hstart := (corrected_bounds (year + 1) hlater).1
      have hmono : corrected (daysBefore (year + 1)) ≤ corrected dayOfEra := corrected_mono (by omega) h
      omega
    · have hvalue : daysBefore 399 = 145731 := rfl
      obtain rfl : year = 399 := by omega
      omega

/-! ## Days of the calendar -/

section OfDays

variable (days : Int)

/-- The era, counted from the one of the year zero. -/
def era : Int :=
  (days + epochOffset) / perEra

/-- The day in its era. -/
def dayOfEra : Nat :=
  ((days + epochOffset) % perEra).toNat

/-- The year in its era, which starts in March. -/
def yearOfEra : Nat :=
  corrected (dayOfEra days) / 365

/-- The day in its year. -/
def dayOfYear : Nat :=
  dayOfEra days - daysBefore (yearOfEra days)

/-- The month in its year. -/
def marchMonth : Nat :=
  (5 * dayOfYear days + 2) / 153

/-- The month in the year that starts in January. -/
def januaryMonth : Nat :=
  if marchMonth days < 10 then marchMonth days + 3 else marchMonth days - 9

theorem ofDays_eq : ofDays days =
    let year := yearOfEra days + era days * 400
    ⟨if januaryMonth days ≤ 2 then year + 1 else year, januaryMonth days,
      dayOfYear days - (153 * marchMonth days + 2) / 5 + 1⟩ :=
  rfl

theorem dayOfEra_le : dayOfEra days ≤ 146096 := by
  unfold dayOfEra perEra
  omega

/-- A day is the one of its era. -/
theorem eq_era : days = era days * 146097 + dayOfEra days - 719468 := by
  unfold era dayOfEra epochOffset perEra
  omega

/-- A day is the one of its year in its era. -/
theorem dayOfEra_eq : yearOfEra days < 400 ∧ dayOfEra days = daysBefore (yearOfEra days) + dayOfYear days ∧
    dayOfYear days ≤ 365 := by
  have hyear := yearOfEra_spec (dayOfEra_le days)
  unfold dayOfYear yearOfEra
  omega

/-- Months of 31 and 30 days alternate, from March and from August on, and the last one is no longer. -/
theorem marchMonth_spec : marchMonth days < 12 ∧ (153 * marchMonth days + 2) / 5 ≤ dayOfYear days ∧
    dayOfYear days < (153 * marchMonth days + 2) / 5 + 31 := by
  have hday := (dayOfEra_eq days).2.2
  unfold marchMonth
  omega

/-- The month that starts the year in March is found again. -/
theorem marchMonth_eq : marchMonth days =
    if januaryMonth days ≤ 2 then januaryMonth days + 9 else januaryMonth days - 3 := by
  have hmonth := (marchMonth_spec days).1
  unfold januaryMonth
  by_cases hten : marchMonth days < 10
  · rw [if_pos hten, if_neg (by omega)]
    omega
  · rw [if_neg hten, if_pos (by omega)]
    omega

theorem month_ofDays : 1 ≤ (ofDays days).month ∧ (ofDays days).month ≤ 12 := by
  have hmonth := (marchMonth_spec days).1
  rw [ofDays_eq]
  simp only [januaryMonth]
  split
  · omega
  · omega

theorem day_ofDays : 1 ≤ (ofDays days).day ∧ (ofDays days).day ≤ 31 := by
  have hday := marchMonth_spec days
  rw [ofDays_eq]
  simp only
  omega

/-- The days within a hundred million of 1970 lie in years of at most six digits. -/
theorem year_ofDays (h : days.natAbs ≤ 100000000) : (ofDays days).year.natAbs < 1000000 := by
  have hera : (era days).natAbs ≤ 700 := by
    have hday := dayOfEra_le days
    have heq := eq_era days
    omega
  have hyear := (dayOfEra_eq days).1
  rw [ofDays_eq]
  simp only
  split
  · omega
  · omega

/-- The days up to a day of the calendar are counted back, whatever day it is. -/
theorem toDays_ofDays : (ofDays days).toDays = days := by
  have heq := eq_era days
  rcases dayOfEra_eq days with ⟨hyear, hday, -⟩
  have hmonth := marchMonth_spec days
  have hstart : (if januaryMonth days ≤ 2 then (if januaryMonth days ≤ 2 then yearOfEra days + era days * 400 + 1
      else yearOfEra days + era days * 400) - 1 else
      (if januaryMonth days ≤ 2 then yearOfEra days + era days * 400 + 1
      else yearOfEra days + era days * 400)) = yearOfEra days + era days * 400 := by
    split
    · omega
    · rfl
  rw [ofDays_eq]
  simp only [toDays, ← marchMonth_eq, hstart]
  have hquotient : ((yearOfEra days : Int) + era days * 400) / 400 = era days := by omega
  have hremainder : (((yearOfEra days : Int) + era days * 400) % 400).toNat = yearOfEra days := by omega
  rw [hquotient, hremainder]
  unfold perEra epochOffset
  unfold daysBefore at hday
  omega

end OfDays

end CivilDay

/-! ## Instants -/

namespace Instant

variable (t : Int)

/-- The month and the day of an instant are those of a calendar. -/
theorem civilDay_bounds : (1 ≤ (civilDay t).month ∧ (civilDay t).month ≤ 12) ∧
    (1 ≤ (civilDay t).day ∧ (civilDay t).day ≤ 31) :=
  ⟨CivilDay.month_ofDays (day t), CivilDay.day_ofDays (day t)⟩

/-- The parts of the time of day keep within their bounds. -/
theorem time_lt : hour t < 24 ∧ minute t < 60 ∧ second t < 60 ∧ millisecond t < 1000 := by
  unfold hour minute second millisecond ofDay perDay
  omega

/-- An instant is made up of the day that it falls on and its time of day. -/
theorem eq_parts : t = (civilDay t).toDays * perDay +
    ((((hour t * 60 + minute t) * 60 + second t) * 1000 + millisecond t : Nat) : Int) := by
  unfold civilDay
  rw [CivilDay.toDays_ofDays]
  unfold day hour minute second millisecond ofDay perDay
  omega

/-- The years of valid dates have at most six digits. -/
theorem year_lt (h : isValid t) : (civilDay t).year.natAbs < 1000000 := by
  have hdistance : t.natAbs ≤ limit := of_decide_eq_true h
  apply CivilDay.year_ofDays
  unfold day perDay
  unfold limit at hdistance
  omega

end Instant

end BraceTemplate
