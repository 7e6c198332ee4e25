import BraceTemplate.Date
import BraceTemplate.Text.Blank

/-!
# Reading dates

A date text is cut into numbers, words and signs. It is first read as the interchange form, with any
part from the month on left out; a day past the end of its month runs on into the next. What does not
fit that form is read leniently: numbers are taken for day, month and year or, around colons, for a
time; names of months and zones are understood, other words only before the first number.
-/

namespace BraceTemplate.Date

/-- What a word of a date text can mean. -/
inductive Word where
  | month (number : Nat)
  | halfDay (hours : Nat)
  | zone (hours : Int)
  | timeMark
  | unknown
deriving DecidableEq, Repr

/-- A piece of a date text. -/
inductive Piece where
  | number (value length : Nat)
  | word (meaning : Word) (length : Nat)
  | sign (u : CodeUnit)
  | blank
  | other
deriving DecidableEq, Repr

/-! ## Pieces -/

/-- The words that mean something, by their first three letters in lower case. -/
def words : List (Text × Word) :=
  [("jan", .month 1), ("feb", .month 2), ("mar", .month 3), ("apr", .month 4), ("may", .month 5),
   ("jun", .month 6), ("jul", .month 7), ("aug", .month 8), ("sep", .month 9), ("oct", .month 10),
   ("nov", .month 11), ("dec", .month 12), ("am", .halfDay 0), ("pm", .halfDay 12),
   ("ut", .zone 0), ("utc", .zone 0), ("z", .zone 0), ("gmt", .zone 0), ("cdt", .zone (-5)),
   ("cst", .zone (-6)), ("edt", .zone (-4)), ("est", .zone (-5)), ("mdt", .zone (-6)),
   ("mst", .zone (-7)), ("pdt", .zone (-7)), ("pst", .zone (-8)), ("t", .timeMark)]

/-- The meaning of a word; only the name of a month may go on past three letters. -/
def meaning (word : Text) : Word :=
  let lower (u : CodeUnit) : CodeUnit := if 0x41 ≤ u && u ≤ 0x5A then u + 0x20 else u
  match words.lookup ((word.take 3).map lower) with
  | some (.month n) => .month n
  | some w => if word.length ≤ 3 then w else .unknown
  | none => .unknown

/-- A unit that belongs to a word. -/
def isWordUnit (u : CodeUnit) : Bool :=
  0x41 ≤ u && !u.isBlank

/-- The value of digits: leading zeros are skipped and nine digits count. -/
def numberPiece (digits : Text) : Piece :=
  .number (Text.digitsValue ((digits.dropWhile (· = CodeUnit.zero)).take 9)) digits.length

/-- What follows a parenthesis and its partner. -/
def skipParentheses (depth : Nat) : Text → Text
  | [] => []
  | u :: rest =>
    if u = CodeUnit.ofChar '(' then skipParentheses (depth + 1) rest
    else if u = CodeUnit.ofChar ')' then
      if depth = 0 then rest else skipParentheses (depth - 1) rest
    else skipParentheses depth rest

theorem skipParentheses_length (depth : Nat) (t : Text) :
    (skipParentheses depth t).length ≤ t.length := by
  induction t generalizing depth with
  | nil => simp [skipParentheses]
  | cons u rest ih =>
    have h1 := ih (depth + 1)
    have h2 := ih (depth - 1)
    have h3 := ih depth
    simp only [skipParentheses, List.length_cons]
    split
    · omega
    · split
      · split <;> omega
      · omega

/-- The signs that mean something between the parts of a date. -/
def isSign (u : CodeUnit) : Bool :=
  u = CodeUnit.ofChar ':' || u = CodeUnit.minus || u = CodeUnit.plus || u = CodeUnit.point ||
    u = CodeUnit.ofChar ')'

/-- The pieces of a date text. -/
def pieces : Text → List Piece
  | [] => []
  | u :: rest =>
    if u.isDigit then
      numberPiece (u :: rest.takeWhile CodeUnit.isDigit) :: pieces (rest.dropWhile CodeUnit.isDigit)
    else if isSign u then .sign u :: pieces rest
    else if isWordUnit u then
      let word := u :: rest.takeWhile isWordUnit
      .word (meaning word) word.length :: pieces (rest.dropWhile isWordUnit)
    else if u.isBlank then .blank :: pieces rest
    else if u = CodeUnit.ofChar '(' then .other :: pieces (skipParentheses 0 rest)
    else .other :: pieces rest
termination_by t => t.length
decreasing_by
  all_goals simp only [List.length_cons]
  · have := (List.dropWhile_suffix (l := rest) CodeUnit.isDigit).length_le; omega
  · omega
  · have := (List.dropWhile_suffix (l := rest) isWordUnit).length_le; omega
  · omega
  · have := skipParentheses_length 0 rest; omega
  · omega

/-! ## The parts collected so far -/

/-- The parts of a date text read so far, in reading order. -/
structure Draft where
  days : List Int := []
  month : Option Nat := none
  times : List Nat := []
  halfDay : Option Nat := none
  zoneNegative : Option Bool := none
  zoneHour : Option Nat := none
  zoneMinute : Option Nat := none
  /-- Whether the interchange form was read to its end. -/
  iso : Bool := false

namespace Draft

/-- Adds a number of the day; there is room for three. -/
def addDay? (d : Draft) (n : Int) : Option Draft :=
  if d.days.length < 3 then some { d with days := d.days ++ [n] } else none

/-- Adds a number of the time; there is room for four. -/
def addTime? (d : Draft) (n : Nat) : Option Draft :=
  if d.times.length < 4 then some { d with times := d.times ++ [n] } else none

/-- Adds the last number of the time, if there is room, and ends the time. -/
def endTime (d : Draft) (n : Nat) : Draft :=
  let times := (d.times ++ [n]).take 4
  { d with times := times ++ List.replicate (4 - times.length) 0 }

/-- Whether a number can be the next part of a time that has begun. -/
def expectsTime (d : Draft) (n : Nat) : Bool :=
  match d.times.length with
  | 1 => n < 60
  | 2 => n < 60
  | 3 => n < 1000
  | _ => false

/-- Whether a number can be the minutes of a zone that has begun. -/
def expectsZoneMinute (d : Draft) (n : Nat) : Bool :=
  d.zoneHour.isSome && d.zoneMinute.isNone && n < 60

/-- Sets the zone to whole hours. -/
def setZone (d : Draft) (hours : Int) : Draft :=
  { d with zoneNegative := some (hours < 0), zoneHour := some hours.natAbs, zoneMinute := some 0 }

/-- Whether the zone is set to universal time. -/
def isUniversal (d : Draft) : Bool :=
  d.zoneHour = some 0 && d.zoneMinute = some 0

def isMonth (n : Int) : Bool := 1 ≤ n && n ≤ 12
def isDay (n : Int) : Bool := 1 ≤ n && n ≤ 31

/-- The century of a year written with two digits. -/
def fullYear (year : Int) : Int :=
  if 0 ≤ year ∧ year ≤ 49 then year + 2000
  else if 50 ≤ year ∧ year ≤ 99 then year + 1900
  else year

/-- Year, month and day; missing parts are one. -/
def dayParts? (d : Draft) : Option (Int × Int × Int) :=
  match d.days ++ List.replicate (3 - d.days.length) 1 with
  | [a, b, c] =>
    if d.days.isEmpty then none
    else
      let (year, month, day) := match d.month with
        | none => if d.iso || !isDay a then (a, b, c) else (c, a, b)
        | some m => if !isDay a then (a, (m : Int), b) else (b, (m : Int), a)
      let year := if d.iso then year else fullYear year
      if isMonth month && isDay day then some (year, month, day) else none
  | _ => none

/-- The milliseconds of the time of day; missing parts are zero, and hour 24 is allowed alone. -/
def timeOfDay? (d : Draft) : Option Nat :=
  match d.times ++ List.replicate (4 - d.times.length) 0 with
  | [hour, minute, second, ms] =>
    let hour? := match d.halfDay with
      | some offset => if hour ≤ 12 then some (hour % 12 + offset) else none
      | none => some hour
    match hour? with
    | none => none
    | some hour =>
      if (hour < 24 && minute < 60 && second < 60 && ms < 1000) ||
          (hour = 24 && minute = 0 && second = 0 && ms = 0) then
        some (((hour * 60 + minute) * 60 + second) * 1000 + ms)
      else none
  | _ => none

/-- How many values a machine word has. -/
abbrev wordSize : Nat := 4294967296

/-- How far the zone is ahead of universal time, in milliseconds. Its seconds are counted without
sign in a machine word, and have to fit in a signed one. -/
def zoneOffset? (d : Draft) : Option Int :=
  match d.zoneNegative with
  | none => some 0
  | some negative =>
    let seconds := (d.zoneHour.getD 0 * 3600 + d.zoneMinute.getD 0 * 60) % wordSize
    if 2 * seconds < wordSize then
      let size := Int.ofNat (seconds * 1000)
      some (if negative then -size else size)
    else none

/-- The date of the parts. -/
def toDate (d : Draft) : Date :=
  match d.dayParts?, d.timeOfDay?, d.zoneOffset? with
  | some (year, month, day), some time, some offset =>
    let days := CivilDay.toDays ⟨year, month.toNat, day.toNat⟩
    Date.ofInstant (days * Instant.perDay + time - offset)
  | _, _, _ => none

end Draft

/-- The first three digits of a fraction of a second. -/
def milliseconds (value length : Nat) : Nat :=
  match length with
  | 1 => value * 100
  | 2 => value * 10
  | 3 => value
  | n => value / tenTo (min n 9 - 3)

/-! ## The lenient form -/

/-- Whether a sign comes next. -/
def nextIs (c : CodeUnit) : List Piece → Bool
  | .sign c' :: _ => c = c'
  | _ => false

/-- What one piece does: the parts with it, and how many of the pieces after it belong to it. -/
abbrev Step := Option (Draft × Nat)

/-- Whether a finished time may stand before these pieces. -/
def endsTime : List Piece → Bool
  | [] => true
  | .blank :: _ => true
  | .word (.zone _) 1 :: _ => true
  | rest => nextIs CodeUnit.minus rest || nextIs CodeUnit.plus rest

/-- A number before a colon is part of a time; before two colons a whole one. -/
def readClock (d : Draft) (n : Nat) (after : List Piece) : Step :=
  if nextIs (CodeUnit.ofChar ':') after then
    if d.times.isEmpty then some ({ d with times := [n, 0] }, 2) else none
  else (d.addTime? n).map (·, if nextIs CodeUnit.point after then 2 else 1)

/-- A number that is no part of a clock: minutes of a zone, the end of a time, or part of the day. -/
def readPlain (d : Draft) (n : Nat) (skipped : Nat) (after : List Piece) : Step :=
  if d.expectsZoneMinute n then some ({ d with zoneMinute := some n }, skipped)
  else if d.expectsTime n then
    if endsTime after then some (d.endTime n, skipped) else none
  else (d.addDay? n).map (·, if nextIs CodeUnit.minus after then skipped + 1 else skipped)

/-- A number with the pieces after it. -/
def readNumber (d : Draft) (n : Nat) (rest : List Piece) : Step :=
  if nextIs (CodeUnit.ofChar ':') rest then readClock d n (rest.drop 1)
  else if nextIs CodeUnit.point rest then
    if d.expectsTime n then
      match rest.drop 1 with
      | .number ms length :: _ =>
        some ({ d with times := d.times ++ [n] }.endTime (milliseconds ms length), 2)
      | _ => none
    else readPlain d n 1 (rest.drop 1)
  else readPlain d n 0 rest

/-- A word with the pieces after it; `numbers` tells whether a number was read before. -/
def readWord (d : Draft) (numbers : Bool) (w : Word) (rest : List Piece) : Step :=
  let unknown : Step :=
    if numbers then none
    else match rest with
      | .number .. :: _ => none
      | _ => some (d, 0)
  match w with
  | .month m => some ({ d with month := some m }, if nextIs CodeUnit.minus rest then 1 else 0)
  | .halfDay hours => if d.times.isEmpty then unknown else some ({ d with halfDay := some hours }, 0)
  | .zone hours => if numbers then some (d.setZone hours, 0) else unknown
  | _ => unknown

/-- The offset after a sign: hours and minutes in up to four digits, or hours before a colon. -/
def readOffset (d : Draft) (n length consumed : Nat) (after : List Piece) : Step :=
  if nextIs (CodeUnit.ofChar ':') after then
    some ({ d with zoneHour := some n, zoneMinute := none }, consumed)
  else if length = 1 || length = 2 then
    some ({ d with zoneHour := some n, zoneMinute := some 0 }, consumed)
  else if length = 3 || length = 4 then
    some ({ d with zoneHour := some (n / 100), zoneMinute := some (n % 100) }, consumed)
  else none

/-- A sign with the pieces after it, and whether it counts as a number read. -/
def readSign (d : Draft) (numbers : Bool) (c : CodeUnit) (rest : List Piece) :
    Option (Draft × Nat × Bool) :=
  let isOffset := c = CodeUnit.minus || c = CodeUnit.plus
  if isOffset && (d.isUniversal || !d.times.isEmpty) then
    let d := { d with zoneNegative := some (c = CodeUnit.minus) }
    let step := match rest with
      | .number n length :: after => readOffset d n length 1 after
      | _ => readOffset d 0 0 0 rest
    step.map fun (d, skipped) => (d, skipped, true)
  else if (isOffset || c = CodeUnit.ofChar ')') && numbers then none
  else some (d, 0, numbers)

/-- Reads pieces leniently; `numbers` tells whether a number was read before. -/
def lenient (d : Draft) (numbers : Bool) : List Piece → Option Draft
  | [] => some d
  | piece :: rest =>
    let step := match piece with
      | .number n _ => (readNumber d n rest).map fun (d, skipped) => (d, skipped, true)
      | .word w _ => (readWord d numbers w rest).map fun (d, skipped) => (d, skipped, numbers)
      | .sign c => readSign d numbers c rest
      | .blank | .other => some (d, 0, numbers)
    match step with
    | none => none
    | some (d, skipped, numbers) => lenient d numbers (rest.drop skipped)
termination_by l => l.length
decreasing_by simp only [List.length_cons, List.length_drop]; omega

/-! ## The interchange form -/

/-- How far a text follows the interchange form. -/
inductive Strict where
  | complete (d : Draft)
  /-- The parts of the day read and the pieces that are left for the lenient form. -/
  | partly (d : Draft) (rest : List Piece)
  /-- A time of day was begun and is not what the form asks for. -/
  | invalid

/-- The end of the interchange form. -/
def strictEnd (d : Draft) : List Piece → Strict
  | [] => .complete { d with iso := true }
  | _ => .invalid

/-- The minutes of a zone after their colon. -/
def strictZoneMinutes (d : Draft) : List Piece → Strict
  | .sign c :: .number n 2 :: rest =>
    if c = CodeUnit.ofChar ':' && n < 60 then strictEnd { d with zoneMinute := some n } rest
    else .invalid
  | _ => .invalid

/-- The zone after its sign: four digits, or two and two around a colon. -/
def strictOffset (d : Draft) : List Piece → Strict
  | .number n 4 :: rest =>
    if n / 100 < 24 && n % 100 < 60 then
      strictEnd { d with zoneHour := some (n / 100), zoneMinute := some (n % 100) } rest
    else .invalid
  | .number n 2 :: rest =>
    if n < 24 then strictZoneMinutes { d with zoneHour := some n } rest else .invalid
  | _ => .invalid

/-- The zone after a time. -/
def strictZone (d : Draft) : List Piece → Strict
  | .word (.zone 0) 1 :: rest => strictEnd (d.setZone 0) rest
  | .sign c :: rest =>
    if c = CodeUnit.minus || c = CodeUnit.plus then
      strictOffset { d with zoneNegative := some (c = CodeUnit.minus) } rest
    else .invalid
  | rest => strictEnd d rest

/-- The fraction of a second after its point. -/
def strictFraction (d : Draft) (lastHour : Bool) : List Piece → Strict
  | .number n length :: rest =>
    if lastHour && n > 0 then .invalid
    else strictZone { d with times := d.times ++ [milliseconds n length] } rest
  | _ => .invalid

/-- The seconds after their colon. -/
def strictSeconds (d : Draft) (lastHour : Bool) : List Piece → Strict
  | .number n 2 :: rest =>
    if n < 60 && !(lastHour && n > 0) then
      let d := { d with times := d.times ++ [n] }
      if nextIs CodeUnit.point rest then strictFraction d lastHour (rest.drop 1)
      else strictZone d rest
    else .invalid
  | _ => .invalid

/-- The minutes after their colon. -/
def strictMinutes (d : Draft) (lastHour : Bool) : List Piece → Strict
  | .number n 2 :: rest =>
    if n < 60 && !(lastHour && n > 0) then
      let d := { d with times := d.times ++ [n] }
      if nextIs (CodeUnit.ofChar ':') rest then strictSeconds d lastHour (rest.drop 1)
      else strictZone d rest
    else .invalid
  | _ => .invalid

/-- The hour after its mark; the last hour of a day is 24, with nothing after it. -/
def strictHour (d : Draft) : List Piece → Strict
  | .number n 2 :: .sign c :: rest =>
    if n ≤ 24 && c = CodeUnit.ofChar ':' then strictMinutes { d with times := [n] } (n = 24) rest
    else .invalid
  | _ => .invalid

/-- The time after the day. -/
def strictTime (d : Draft) : List Piece → Strict
  | [] => .complete { d.setZone 0 with iso := true }
  | .word .timeMark _ :: rest => strictHour d rest
  | rest => .partly d rest

/-- The day after the dash that follows the month. -/
def strictDay (d : Draft) : List Piece → Strict
  | .number n 2 :: rest =>
    if Draft.isDay n then strictTime { d with days := d.days ++ [Int.ofNat n] } rest
    else .partly d (.number n 2 :: rest)
  | rest => .partly d rest

/-- The month after the dash that follows the year. -/
def strictMonth (d : Draft) : List Piece → Strict
  | .number n 2 :: rest =>
    if Draft.isMonth n then
      let d := { d with days := d.days ++ [Int.ofNat n] }
      match rest with
      | .sign c :: after => if c = CodeUnit.minus then strictDay d after else strictTime d rest
      | _ => strictTime d rest
    else .partly d (.number n 2 :: rest)
  | rest => .partly d rest

/-- What follows the year. -/
def strictYear (year : Int) : List Piece → Strict
  | .sign c :: rest =>
    let d : Draft := { days := [year] }
    if c = CodeUnit.minus then strictMonth d rest else strictTime d (.sign c :: rest)
  | rest => strictTime { days := [year] } rest

/-- The interchange form: four digits of a year, or six after a sign. -/
def strict : List Piece → Strict
  | .number n 4 :: rest => strictYear n rest
  | .sign c :: rest =>
    if c = CodeUnit.minus || c = CodeUnit.plus then
      match rest with
      | .number n 6 :: after =>
        if c = CodeUnit.minus then
          if n = 0 then .partly {} (.sign c :: after) else strictYear (-Int.ofNat n) after
        else strictYear n after
      | _ => .partly {} (.sign c :: rest)
    else .partly {} (.sign c :: rest)
  | rest => .partly {} rest

/-- The part of a text that is read as a date: a null unit ends it. -/
def legible (t : Text) : Text :=
  t.takeWhile (· != 0)

/-- The date a text denotes. -/
def ofText (t : Text) : Date :=
  match strict (pieces (legible t)) with
  | .complete d => d.toDate
  | .partly d rest => (lenient d (!d.days.isEmpty) rest).bind Draft.toDate
  | .invalid => none

end BraceTemplate.Date
