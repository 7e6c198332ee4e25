import BraceTemplate.Date.Reading
import BraceTemplate.Date.Written
import BraceTemplate.Proofs.Calendar
import BraceTemplate.Proofs.Digits

/-!
# Dates in interchange form

What is written for a valid date is read as that date, to the millisecond. The written form is cut into its pieces, whose
digits stand for the parts of the date; the strict reading takes the pieces one after another, and the parts together
are the date, because days are counted back from the calendar.

* `Instant.forall_mem_isoText` — the units of the written form;
* `pieces_isoText` — its pieces;
* `strict_yearPieces`, `strictYear_restPieces` — what the strict reading collects from them;
* `ofText_isoText` — the date that was written is read.
-/

namespace BraceTemplate

/-! ## The written form -/

namespace Instant

/-- What is written behind the year. -/
def isoRest (t : Instant) : Text :=
  CodeUnit.minus :: (Text.ofNatPadded 2 (civilDay t).month ++
  CodeUnit.minus :: (Text.ofNatPadded 2 (civilDay t).day ++
  CodeUnit.ofChar 'T' :: (Text.ofNatPadded 2 (hour t) ++
  CodeUnit.ofChar ':' :: (Text.ofNatPadded 2 (minute t) ++
  CodeUnit.ofChar ':' :: (Text.ofNatPadded 2 (second t) ++
  CodeUnit.point :: (Text.ofNatPadded 3 (millisecond t) ++ [CodeUnit.ofChar 'Z']))))))

theorem isoText_eq (t : Instant) : isoText t = isoYear (civilDay t).year ++ isoRest t := by
  have hjoin : ∀ a b c : Text, Text.join ":" [a, b, c] =
      a ++ CodeUnit.ofChar ':' :: (b ++ CodeUnit.ofChar ':' :: c) := by
    intro a b c
    simp [List.intercalate, List.intersperse, Text.ofString, Text.ofPoint]
  simp only [isoText, isoRest, monthDayText, timeText, millisecondText, hjoin, Text.concat, List.flatten_cons,
    List.flatten_nil, List.append_nil, List.append_assoc, List.cons_append]
  rfl

/-- The units of the written form are digits and six marks. -/
theorem forall_mem_isoText {p : CodeUnit → Bool} (hdigits : ∀ u : CodeUnit, u.isDigit → p u)
    (hmarks : (Text.ofString "+-T:.Z").all p) (t : Instant) : ∀ u ∈ isoText t, p u := by
  rw [List.all_eq_true] at hmarks
  have hpadded : ∀ width n, ∀ u ∈ Text.ofNatPadded width n, p u := by
    intro width n u hu
    exact hdigits u (Text.isDigit_of_mem_ofNatPadded hu)
  rw [isoText_eq, List.forall_mem_append]
  constructor
  · unfold isoYear
    split
    · exact hpadded _ _
    · rw [List.forall_mem_cons]
      refine ⟨hmarks _ ?_, hpadded _ _⟩
      split
      · decide
      · decide
  · simp only [isoRest, List.forall_mem_cons, List.forall_mem_append]
    exact ⟨hmarks _ (by decide), hpadded _ _, hmarks _ (by decide), hpadded _ _, hmarks _ (by decide), hpadded _ _,
      hmarks _ (by decide), hpadded _ _, hmarks _ (by decide), hpadded _ _, hmarks _ (by decide), hpadded _ _,
      hmarks _ (by decide), by simp⟩

end Instant

namespace Date

/-! ## What is read -/

theorem isValid_of_ofInstant {t i : Instant} (h : ofInstant t = some i) : i.isValid := by
  unfold ofInstant at h
  split at h
  · rename_i hvalid
    cases h
    exact hvalid
  · cases h

theorem isValid_of_toDate {d : Draft} {t : Instant} (h : d.toDate = some t) : t.isValid := by
  unfold Draft.toDate at h
  split at h
  · exact isValid_of_ofInstant h
  · cases h

/-- A text is read as a valid date, if it is read as one. -/
theorem isValid_of_ofText {text : Text} {t : Instant} (h : ofText text = some t) : t.isValid := by
  unfold ofText at h
  split at h
  · exact isValid_of_toDate h
  · rcases Option.bind_eq_some_iff.1 h with ⟨d, -, hd⟩
    exact isValid_of_toDate hd
  · cases h

/-! ## Pieces -/

theorem isWordUnit_of_isDigit {u : CodeUnit} (h : u.isDigit) : isWordUnit u = false := by
  have hle : u ≤ 0x39 := by
    simp only [CodeUnit.isDigit, Bool.and_eq_true, decide_eq_true_eq] at h
    exact h.2
  have hnot : ¬ (0x41 : CodeUnit) ≤ u := by
    rw [UInt16.le_iff_toNat_le] at hle ⊢
    have h39 : (0x39 : CodeUnit).toNat = 57 := rfl
    have h41 : (0x41 : CodeUnit).toNat = 65 := rfl
    omega
  simp [isWordUnit, hnot]

/-- Digits up to another unit are one piece, with the value of the digits. -/
theorem pieces_digits {digits : Text} (hne : digits ≠ []) (hdigits : ∀ u ∈ digits, u.isDigit)
    (hlength : digits.length ≤ 9) {u : CodeUnit} (hu : u.isDigit = false) (rest : Text) :
    pieces (digits ++ u :: rest) = .number (Text.digitsValue digits) digits.length :: pieces (u :: rest) := by
  have hvalue : numberPiece digits = .number (Text.digitsValue digits) digits.length := by
    have hsuffix := List.dropWhile_suffix (l := digits) (· = CodeUnit.zero)
    have hle : (digits.dropWhile (· = CodeUnit.zero)).length ≤ 9 := hsuffix.length_le.trans hlength
    rw [numberPiece, List.take_of_length_le hle, Text.digitsValue_dropWhile_zero]
  rcases digits with _ | ⟨first, others⟩
  · exact absurd rfl hne
  rcases List.forall_mem_cons.1 hdigits with ⟨hfirst, hothers⟩
  have hu : ¬ u.isDigit := by simp [hu]
  rw [List.cons_append, pieces, if_pos hfirst, List.takeWhile_append_of_pos hothers,
    List.dropWhile_append_of_pos hothers, List.takeWhile_cons_of_neg hu, List.dropWhile_cons_of_neg hu,
    List.append_nil, hvalue]

/-- A number that fills its width is one piece. -/
theorem pieces_ofNatPadded {width n : Nat} (hwidth : 0 < width) (hnine : width ≤ 9) (h : n < 10 ^ width)
    {u : CodeUnit} (hu : u.isDigit = false) (rest : Text) :
    pieces (Text.ofNatPadded width n ++ u :: rest) = .number n width :: pieces (u :: rest) := by
  have hlength := Text.length_ofNatPadded hwidth h
  have hne : Text.ofNatPadded width n ≠ [] := by
    intro hnil
    rw [hnil] at hlength
    exact absurd hlength (by simp; omega)
  rw [pieces_digits hne (fun u hu => Text.isDigit_of_mem_ofNatPadded hu) (by omega) hu, hlength,
    Text.digitsValue_ofNatPadded]

theorem pieces_sign {u : CodeUnit} (hu : u.isDigit = false) (hsign : isSign u) (rest : Text) :
    pieces (u :: rest) = .sign u :: pieces rest := by
  rw [pieces, if_neg (by simp [hu]), if_pos hsign]

/-- A unit by itself is a word, at the end or before a unit that belongs to no word. -/
theorem pieces_letter {u : CodeUnit} (hu : u.isDigit = false) (hsign : isSign u = false) (hword : isWordUnit u)
    {rest : Text} (hrest : ∀ v ∈ rest.head?, isWordUnit v = false) :
    pieces (u :: rest) = .word (meaning [u]) 1 :: pieces rest := by
  have halone : rest.takeWhile isWordUnit = [] ∧ rest.dropWhile isWordUnit = rest := by
    cases rest with
    | nil => exact ⟨rfl, rfl⟩
    | cons v rest =>
      have hstop : ¬ isWordUnit v := by simp [hrest v rfl]
      exact ⟨List.takeWhile_cons_of_neg hstop, List.dropWhile_cons_of_neg hstop⟩
  rw [pieces, if_neg (by simp [hu]), if_neg (by simp [hsign]), if_pos hword]
  simp only [halone, List.length_singleton]

theorem isWordUnit_of_mem_head_ofNatPadded {width : Nat} (hwidth : 0 < width) (n : Nat) (rest : Text) :
    ∀ v ∈ (Text.ofNatPadded width n ++ rest).head?, isWordUnit v = false := by
  have hlength : width ≤ (Text.ofNatPadded width n).length := by
    rw [Text.ofNatPadded, List.length_append, List.length_replicate]
    omega
  intro v hv
  have hmem : v ∈ Text.ofNatPadded width n := by
    cases hdigits : Text.ofNatPadded width n with
    | nil =>
      rw [hdigits] at hlength
      exact absurd (hwidth.trans_le hlength) (Nat.lt_irrefl 0)
    | cons first others =>
      rw [hdigits] at hv
      cases hv
      exact List.mem_cons_self
  exact isWordUnit_of_isDigit (Text.isDigit_of_mem_ofNatPadded hmem)

/-- The pieces of a year. -/
def yearPieces (year : Int) : List Piece :=
  if 0 ≤ year ∧ year ≤ 9999 then [.number year.toNat 4]
  else [.sign (if year < 0 then CodeUnit.minus else CodeUnit.plus), .number year.natAbs 6]

/-- The pieces behind the year. -/
def restPieces (month day hour minute second millisecond : Nat) : List Piece :=
  [.sign CodeUnit.minus, .number month 2, .sign CodeUnit.minus, .number day 2, .word .timeMark 1, .number hour 2,
    .sign (CodeUnit.ofChar ':'), .number minute 2, .sign (CodeUnit.ofChar ':'), .number second 2,
    .sign CodeUnit.point, .number millisecond 3, .word (.zone 0) 1]

theorem pieces_isoYear {year : Int} (h : year.natAbs < 1000000) {u : CodeUnit} (hu : u.isDigit = false)
    (rest : Text) : pieces (Instant.isoYear year ++ u :: rest) = yearPieces year ++ pieces (u :: rest) := by
  unfold Instant.isoYear yearPieces
  split
  · rename_i hfour
    exact pieces_ofNatPadded (by decide) (by decide) (by omega) hu rest
  · have hsign : ∀ b : Prop, [Decidable b] → (if b then CodeUnit.minus else CodeUnit.plus).isDigit = false ∧
        isSign (if b then CodeUnit.minus else CodeUnit.plus) := by
      intro b _
      split
      · decide
      · decide
    rw [List.cons_append, pieces_sign (hsign _).1 (hsign _).2, pieces_ofNatPadded (by decide) (by decide) h hu]
    rfl

theorem pieces_isoRest (t : Instant) : pieces (Instant.isoRest t) =
    restPieces (Instant.civilDay t).month (Instant.civilDay t).day (Instant.hour t) (Instant.minute t)
      (Instant.second t) (Instant.millisecond t) := by
  rcases Instant.civilDay_bounds t with ⟨⟨-, hmonth⟩, -, hday⟩
  rcases Instant.time_lt t with ⟨hhour, hminute, hsecond, hmillisecond⟩
  have hmark : meaning [CodeUnit.ofChar 'T'] = .timeMark := by decide
  have hzone : meaning [CodeUnit.ofChar 'Z'] = .zone 0 := by decide
  unfold Instant.isoRest
  -- from left to right: a mark, and the number up to the mark behind it
  rw [pieces_sign (by decide) (by decide), pieces_ofNatPadded (by decide) (by decide) (by omega) (by decide),
    pieces_sign (by decide) (by decide), pieces_ofNatPadded (by decide) (by decide) (by omega) (by decide),
    pieces_letter (by decide) (by decide) (by decide) (isWordUnit_of_mem_head_ofNatPadded (by decide) _ _), hmark,
    pieces_ofNatPadded (by decide) (by decide) (by omega) (by decide),
    pieces_sign (by decide) (by decide), pieces_ofNatPadded (by decide) (by decide) (by omega) (by decide),
    pieces_sign (by decide) (by decide), pieces_ofNatPadded (by decide) (by decide) (by omega) (by decide),
    pieces_sign (by decide) (by decide), pieces_ofNatPadded (by decide) (by decide) (by omega) (by decide),
    pieces_letter (by decide) (by decide) (by decide) (by simp), hzone, pieces]
  rfl

/-- The pieces of the written form of a valid date. -/
theorem pieces_isoText {t : Instant} (h : t.isValid) : pieces (Instant.isoText t) =
    yearPieces (Instant.civilDay t).year ++ restPieces (Instant.civilDay t).month (Instant.civilDay t).day
      (Instant.hour t) (Instant.minute t) (Instant.second t) (Instant.millisecond t) := by
  rw [Instant.isoText_eq, ← pieces_isoRest]
  exact pieces_isoYear (Instant.year_lt t h) (by decide) _

/-! ## The strict reading -/

/-- The year is read, in either of its forms. -/
theorem strict_yearPieces (year : Int) (rest : List Piece) : strict (yearPieces year ++ rest) = strictYear year rest := by
  unfold yearPieces
  split
  · rename_i hfour
    rw [List.singleton_append, strict, Int.toNat_of_nonneg hfour.1]
  · rename_i hsix
    by_cases hnegative : year < 0
    · -- the reading refuses a year zero with a minus, which is never written
      have hzero : year.natAbs ≠ 0 := by omega
      have hvalue : -Int.ofNat year.natAbs = year := by
        rw [Int.ofNat_eq_natCast]
        omega
      rw [if_pos hnegative]
      show (if year.natAbs = 0 then _ else strictYear (-Int.ofNat year.natAbs) rest) = _
      rw [if_neg hzero, hvalue]
    · have hvalue : (year.natAbs : Int) = year := by omega
      rw [if_neg hnegative]
      show strictYear year.natAbs rest = _
      rw [hvalue]

/-- The parts of a date that the interchange form gives. -/
def isoDraft (year : Int) (month day hour minute second millisecond : Nat) : Draft where
  days := [year, month, day]
  times := [hour, minute, second, millisecond]
  zoneNegative := some false
  zoneHour := some 0
  zoneMinute := some 0
  iso := true

theorem strictYear_restPieces (year : Int) {month day hour minute second : Nat} (millisecond : Nat)
    (hmonth : 1 ≤ month ∧ month ≤ 12) (hday : 1 ≤ day ∧ day ≤ 31) (hhour : hour < 24) (hminute : minute < 60)
    (hsecond : second < 60) : strictYear year (restPieces month day hour minute second millisecond) =
      .complete (isoDraft year month day hour minute second millisecond) := by
  have hmonth' : Draft.isMonth month := by simp [Draft.isMonth]; omega
  have hday' : Draft.isDay day := by simp [Draft.isDay]; omega
  have hlast : hour ≠ 24 := by omega
  simp [restPieces, strictYear, strictMonth, hmonth', strictDay, hday', strictTime, strictHour, hhour.le, hlast,
    strictMinutes, strictSeconds, strictFraction, strictZone, strictEnd, hminute, hsecond, nextIs, Draft.setZone, milliseconds, isoDraft]

/-! ### The date of the parts -/

section Parts

variable (year : Int) {month day hour minute second millisecond : Nat}

theorem dayParts_isoDraft (hmonth : 1 ≤ month ∧ month ≤ 12) (hday : 1 ≤ day ∧ day ≤ 31) :
    (isoDraft year month day hour minute second millisecond).dayParts? = some (year, (month : Int), (day : Int)) := by
  have hmonth' : Draft.isMonth month := by simp [Draft.isMonth]; omega
  have hday' : Draft.isDay day := by simp [Draft.isDay]; omega
  simp [isoDraft, Draft.dayParts?, hmonth', hday']

theorem timeOfDay_isoDraft (hhour : hour < 24) (hminute : minute < 60) (hsecond : second < 60)
    (hmillisecond : millisecond < 1000) :
    (isoDraft year month day hour minute second millisecond).timeOfDay? =
      some (((hour * 60 + minute) * 60 + second) * 1000 + millisecond) := by
  simp [isoDraft, Draft.timeOfDay?, hhour, hminute, hsecond, hmillisecond]

theorem zoneOffset_isoDraft : (isoDraft year month day hour minute second millisecond).zoneOffset? = some 0 := by
  simp [isoDraft, Draft.zoneOffset?]

end Parts

/-- The parts of an instant are the instant. -/
theorem toDate_isoDraft {t : Instant} (h : t.isValid) :
    (isoDraft (Instant.civilDay t).year (Instant.civilDay t).month (Instant.civilDay t).day (Instant.hour t)
      (Instant.minute t) (Instant.second t) (Instant.millisecond t)).toDate = some t := by
  rcases Instant.civilDay_bounds t with ⟨hmonth, hday⟩
  rcases Instant.time_lt t with ⟨hhour, hminute, hsecond, hmillisecond⟩
  have hparts := Instant.eq_parts t
  rw [Draft.toDate, dayParts_isoDraft _ hmonth hday, timeOfDay_isoDraft _ hhour hminute hsecond hmillisecond,
    zoneOffset_isoDraft]
  simp only [Int.toNat_natCast, Int.sub_zero]
  rw [← hparts]
  exact if_pos h

/-- What is written in interchange form for a valid date is read as that date, also outside the years 0 to 9999. -/
theorem ofText_isoText {t : Instant} (h : t.isValid) : ofText (Instant.isoText t) = some t := by
  have hlegible : legible (Instant.isoText t) = Instant.isoText t := by
    have hdigits : ∀ u : CodeUnit, u.isDigit → u != 0 := by
      intro u hu
      rw [bne_iff_ne]
      rintro rfl
      cases hu
    have hunits := Instant.forall_mem_isoText hdigits (by decide) t
    rw [legible, ← List.append_nil (Instant.isoText t), List.takeWhile_append_of_pos hunits, List.takeWhile_nil]
  rcases Instant.civilDay_bounds t with ⟨hmonth, hday⟩
  rcases Instant.time_lt t with ⟨hhour, hminute, hsecond, -⟩
  rw [ofText, hlegible, pieces_isoText h, strict_yearPieces,
    strictYear_restPieces _ _ hmonth hday hhour hminute hsecond]
  exact toDate_isoDraft h

end Date

end BraceTemplate
