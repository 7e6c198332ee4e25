import BraceTemplate.Number

/-!
# Dates

An instant is a count of milliseconds from the start of 1970, and a date is an instant within
`8.64e15` of it or no instant at all. Days are counted in the Gregorian calendar extended to all
years, with years that start in March so that the leap day comes last.
-/

namespace BraceTemplate

/-- Milliseconds since the start of 1970 in universal time. -/
abbrev Instant := Int

/-- A date as a caller holds it; an invalid date has no instant. -/
abbrev Date := Option Instant

namespace Instant

/-- The distance from 1970 that an instant may have. -/
abbrev limit : Nat := 8640000000000000

/-- Whether an instant belongs to a valid date. -/
def isValid (t : Instant) : Bool :=
  t.natAbs ≤ limit

/-- The milliseconds of a day. -/
abbrev perDay : Int := 86400000

/-- The day an instant falls on, counted from 1970-01-01. -/
def day (t : Instant) : Int :=
  t / perDay

/-- The milliseconds since the day began. -/
def ofDay (t : Instant) : Nat :=
  (t % perDay).toNat

def hour (t : Instant) : Nat := ofDay t / 3600000
def minute (t : Instant) : Nat := ofDay t / 60000 % 60
def second (t : Instant) : Nat := ofDay t / 1000 % 60
def millisecond (t : Instant) : Nat := ofDay t % 1000

end Instant

namespace Date

/-- The date of an instant, if the instant is not too far away. -/
def ofInstant (t : Instant) : Date :=
  if Instant.isValid t then some t else none

/-- The date of a number of milliseconds, whose fraction is dropped. -/
def ofNumber (n : Number) : Date :=
  n.truncate?.bind ofInstant

end Date

/-- A day of the calendar. -/
structure CivilDay where
  year : Int
  month : Nat
  day : Nat
deriving DecidableEq, Repr

namespace CivilDay

/-- The days from 0000-03-01 to 1970-01-01. -/
abbrev epochOffset : Int := 719468

/-- The days of four hundred years. -/
abbrev perEra : Int := 146097

/-- The calendar day that lies `days` after 1970-01-01. -/
def ofDays (days : Int) : CivilDay :=
  let shifted := days + epochOffset
  let era := shifted / perEra
  let dayOfEra := (shifted % perEra).toNat
  let yearOfEra := (dayOfEra - dayOfEra / 1460 + dayOfEra / 36524 - dayOfEra / 146096) / 365
  let dayOfYear := dayOfEra - (365 * yearOfEra + yearOfEra / 4 - yearOfEra / 100)
  let marchMonth := (5 * dayOfYear + 2) / 153
  let day := dayOfYear - (153 * marchMonth + 2) / 5 + 1
  let month := if marchMonth < 10 then marchMonth + 3 else marchMonth - 9
  let year := yearOfEra + era * 400
  ⟨if month ≤ 2 then year + 1 else year, month, day⟩

/-- The days from 1970-01-01 to a calendar day; a day past the end of its month runs on into the
next. -/
def toDays (c : CivilDay) : Int :=
  let year := if c.month ≤ 2 then c.year - 1 else c.year
  let era := year / 400
  let yearOfEra := (year % 400).toNat
  let marchMonth := if c.month ≤ 2 then c.month + 9 else c.month - 3
  let dayOfYear : Int := (153 * marchMonth + 2) / 5 + c.day - 1
  let dayOfEra := yearOfEra * 365 + yearOfEra / 4 - yearOfEra / 100 + dayOfYear
  era * perEra + dayOfEra - epochOffset

end CivilDay

/-- The calendar day of an instant in universal time. -/
def Instant.civilDay (t : Instant) : CivilDay :=
  CivilDay.ofDays (Instant.day t)

/-- The day of the week of an instant, Sunday being zero. -/
def Instant.weekday (t : Instant) : Nat :=
  ((Instant.day t + 4) % 7).toNat

end BraceTemplate
