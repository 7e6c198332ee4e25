import BraceTemplate.Date

/-!
# Dates as text

Three written forms. The interchange form has a year of four digits, or a signed one of six outside
the years 0 to 9999, and ends in `Z`. The local form, used by the clock functions, writes the year as
it is and names no zone. The long form names the weekday and the month.
-/

namespace BraceTemplate

namespace Instant

/-- The year of the interchange form. -/
def isoYear (year : Int) : Text :=
  if 0 ≤ year ∧ year ≤ 9999 then Text.ofNatPadded 4 year.toNat
  else (if year < 0 then CodeUnit.minus else CodeUnit.plus) :: Text.ofNatPadded 6 year.natAbs

/-- Month and day after their dashes. -/
def monthDayText (t : Instant) : Text :=
  let c := civilDay t
  Text.concat ["-", Text.ofNatPadded 2 c.month, "-", Text.ofNatPadded 2 c.day]

/-- Hours, minutes and seconds. -/
def timeText (t : Instant) : Text :=
  Text.join ":" [Text.ofNatPadded 2 (hour t), Text.ofNatPadded 2 (minute t),
    Text.ofNatPadded 2 (second t)]

/-- The milliseconds in three digits. -/
def millisecondText (t : Instant) : Text :=
  Text.ofNatPadded 3 (millisecond t)

/-- The interchange form `YYYY-MM-DDTHH:MM:SS.mmmZ`. -/
def isoText (t : Instant) : Text :=
  Text.concat [isoYear (civilDay t).year, monthDayText t, "T", timeText t, ".", millisecondText t,
    "Z"]

/-- The local day, the year written as it is. -/
def localDayText (t : Instant) : Text :=
  Text.ofInt (civilDay t).year ++ monthDayText t

/-- The local day and time without a zone. -/
def localText (t : Instant) : Text :=
  Text.concat [localDayText t, "T", timeText t, ".", millisecondText t]

def weekdayNames : List Text :=
  ["Sun", "Mon", "Tue", "Wed", "Thu", "Fri", "Sat"]

def monthNames : List Text :=
  ["Jan", "Feb", "Mar", "Apr", "May", "Jun", "Jul", "Aug", "Sep", "Oct", "Nov", "Dec"]

/-- The long form with names of weekday and month. -/
def longText (t : Instant) : Text :=
  let c := civilDay t
  let year := Text.ofNatPadded 4 c.year.natAbs
  Text.concat [weekdayNames.getD (weekday t) [], " ", monthNames.getD (c.month - 1) [], " ",
    Text.ofNatPadded 2 c.day, " ", if c.year < 0 then CodeUnit.minus :: year else year, " ",
    timeText t, " GMT+0000 (Coordinated Universal Time)"]

end Instant

namespace Date

/-- The local day of a date. -/
def dayText : Date → Text
  | some t => Instant.localDayText t
  | none => "NaN-NaN-NaN"

/-- The local time of a date. -/
def timeText : Date → Text
  | some t => Instant.timeText t
  | none => "NaN:NaN:NaN"

/-- The local day and time of a date. -/
def timestampText : Date → Text
  | some t => Instant.localText t
  | none => Text.concat [dayText none, "T", timeText none, ".NaN"]

/-- The long form of a date. -/
def longText : Date → Text
  | some t => Instant.longText t
  | none => "Invalid Date"

end Date

end BraceTemplate
