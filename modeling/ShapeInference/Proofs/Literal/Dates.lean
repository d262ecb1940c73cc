import Mathlib.Tactic.IntervalCases
import ShapeInference.Proofs.Literal.Shapes

/-! Which texts are dates and timestamps.

Both languages are given by what writes them: a day of the standard library's calendar, the time of
day, and a zone. The fields of a shape are the numbers of such a text, so that the check of the
fields is all that is left to compare.
-/

set_option autoImplicit false

namespace ShapeInference.Literal

open Std.Time (Day.Ordinal Month.Ordinal PlainDate Year.Offset)

/-! The languages. -/

/-- `yyyy-MM-dd` -/
def dateText (date : PlainDate) : List Char :=
  padded 4 date.year.toInt.toNat ++ '-' ::
    (padded 2 date.month.val.toNat ++ '-' :: padded 2 date.day.val.toNat)

/-- A day of the Gregorian calendar in one of the years from 0 to 9999. -/
def IsDateText (text : List Char) : Prop :=
  ∃ date : PlainDate, 0 ≤ date.year.toInt ∧ date.year.toInt ≤ 9999 ∧ text = dateText date

/-- `HH:mm:ss` -/
def clockText (hour minute second : Nat) : List Char :=
  padded 2 hour ++ ':' :: (padded 2 minute ++ ':' :: padded 2 second)

inductive IsZoneText : List Char → Prop where
  | utc : IsZoneText ['Z']
  | offset {sign : Char} {hours minutes : Nat} {colon : List Char} : sign = '+' ∨ sign = '-' →
    hours ≤ 23 → colon = [] ∨ colon = [':'] → minutes ≤ 59 →
    IsZoneText (sign :: padded 2 hours ++ colon ++ padded 2 minutes)

/-- A date with the time of day, six digits of a second and a zone. -/
inductive IsTimestampText : List Char → Prop where
  | mk {date fraction zone : List Char} {hour minute second : Nat} : IsDateText date →
    hour ≤ 23 → minute ≤ 59 → second ≤ 59 → IsDigits 6 fraction → IsZoneText zone →
    IsTimestampText (date ++ 'T' :: (clockText hour minute second ++ '.' :: (fraction ++ zone)))

/-! The calendar. -/

theorem isLeap_eq (year : Nat) : Year.Offset.isLeap (year : Int) = isLeapYear year := by
  have remainder (n : Nat) : (year : Int).tmod n = 0 ↔ year % n = 0 := by
    rw [← Int.ofNat_tmod]
    exact Int.natCast_eq_zero
  rw [Year.Offset.isLeap, isLeapYear, Bool.eq_iff_iff]
  simp only [Bool.and_eq_true, Bool.or_eq_true, decide_eq_true_eq]
  exact and_congr (remainder 4) (or_congr (not_congr (remainder 100)) (remainder 400))

theorem days_eq (year : Nat) (month : Month.Ordinal) :
    (Month.Ordinal.days (isLeapYear year) month).val = daysIn year month.val.toNat := by
  rw [daysIn]
  generalize isLeapYear year = leap
  obtain ⟨month, first, last⟩ := month
  interval_cases month <;> cases leap <;> rfl

theorem valid_iff (year : Nat) (month : Month.Ordinal) (day : Day.Ordinal) :
    Year.Offset.Valid (year : Int) month day ↔ day.val ≤ daysIn year month.val.toNat := by
  rw [← days_eq, ← isLeap_eq]
  exact Iff.rfl

theorem Date.isReal_iff (date : Date) : date.isReal = true ↔
    ∃ day : PlainDate, day.year.toInt = date.year ∧ day.month.val = date.month ∧
      day.day.val = date.day := by
  obtain ⟨year, month, day⟩ := date
  simp only [isReal, Bool.and_eq_true, decide_eq_true_eq]
  constructor
  · rintro ⟨⟨⟨first, last⟩, one⟩, fits⟩
    have bound : daysIn year month ≤ 31 := by
      unfold daysIn
      split <;> split <;> decide
    let date : PlainDate := ⟨(year : Int), ⟨month, by omega, by omega⟩, ⟨day, by omega, by omega⟩,
      (valid_iff ..).2 (Int.ofNat_le.2 fits)⟩
    exact ⟨date, rfl, rfl, rfl⟩
  · rintro ⟨⟨y, ordinal, ordinalDay, valid⟩, rfl, months, days⟩
    have fits := (valid_iff year ordinal ordinalDay).1 valid
    have one := ordinalDay.property
    have range := ordinal.property
    dsimp only at months days
    rw [months, Int.toNat_natCast, days] at fits
    omega

/-! Dates. -/

section
variable {text year month day hour minute second fraction zone : List Char} {captures : Captures}

theorem captured_dateShape : Captured dateShape text captures ↔
    ∃ year month day, IsDigits 4 year ∧ IsDigits 2 month ∧ IsDigits 2 day ∧
      text = year ++ '-' :: (month ++ '-' :: day) ∧
      captures = [(.year, year), (.month, month), (.day, day)] := by
  constructor
  · intro captured
    obtain ⟨year, _, _, years, afterYear, rfl, rfl⟩ := captured_field.1 captured
    obtain ⟨month, _, _, months, afterMonth, rfl, rfl⟩ := captured_field.1 afterYear
    obtain ⟨days, rfl⟩ := captured_digits.1 afterMonth
    exact ⟨year, month, _, years, months, days, rfl, rfl⟩
  · rintro ⟨year, month, day, years, months, days, rfl, rfl⟩
    exact .digits years (.char (.digits months (.char (captured_digits.2 ⟨days, rfl⟩))))

theorem validDate_eq (others : Captures) (years : IsDigits 4 year) (months : IsDigits 2 month)
    (days : IsDigits 2 day) :
    validDate ([(.year, year), (.month, month), (.day, day)] ++ others) =
      (Date.mk (valueOf year) (valueOf month) (valueOf day)).isReal := by
  rw [validDate, Captures.number?_eq rfl years (by decide) (by decide),
    Captures.number?_eq rfl months (by decide) (by decide),
    Captures.number?_eq rfl days (by decide) (by decide)]

theorem isDateText_iff : IsDateText text ↔
    ∃ year month day, IsDigits 4 year ∧ IsDigits 2 month ∧ IsDigits 2 day ∧
      text = year ++ '-' :: (month ++ '-' :: day) ∧
      (Date.mk (valueOf year) (valueOf month) (valueOf day)).isReal = true := by
  constructor
  · rintro ⟨date, first, last, rfl⟩
    have months := date.month.property
    have days := date.day.property
    refine ⟨_, _, _, isDigits_padded (by decide) (by omega), isDigits_padded (by decide) (by omega),
      isDigits_padded (by decide) (by omega), rfl, ?_⟩
    rw [valueOf_padded, valueOf_padded, valueOf_padded, Date.isReal_iff]
    refine ⟨date, ?_, ?_, ?_⟩ <;> dsimp only <;> omega
  · rintro ⟨year, month, day, years, months, days, rfl, real⟩
    obtain ⟨date, yearSame, monthSame, daySame⟩ := (Date.isReal_iff _).1 real
    have bound := years.valueOf_lt
    dsimp only at yearSame monthSame daySame
    refine ⟨date, by omega, by omega, ?_⟩
    rw [dateText, yearSame, monthSame, daySame, Int.toNat_natCast, Int.toNat_natCast,
      Int.toNat_natCast, ← years.eq_padded (by decide), ← months.eq_padded (by decide),
      ← days.eq_padded (by decide)]

theorem DatePattern.accepts_iff (pattern : DatePattern) : pattern.accepts text = true ↔
    ∃ captures, Captured pattern.shape text captures ∧ pattern.valid captures = true := by
  simp only [accepts, Option.any_eq_true, captures?_eq_some]

theorem isDateOnly_iff : isDateOnly text = true ↔ IsDateText text := by
  rw [isDateOnly, DatePattern.accepts_iff, isDateText_iff]
  constructor
  · rintro ⟨captures, captured, valid⟩
    obtain ⟨year, month, day, years, months, days, rfl, rfl⟩ := captured_dateShape.1 captured
    have real := validDate_eq [] years months days
    rw [List.append_nil] at real
    exact ⟨year, month, day, years, months, days, rfl, real.symm.trans valid⟩
  · rintro ⟨year, month, day, years, months, days, rfl, real⟩
    refine ⟨_, captured_dateShape.2 ⟨year, month, day, years, months, days, rfl, rfl⟩, ?_⟩
    exact (validDate_eq [] years months days).trans real

/-! Timestamps. -/

theorem captured_timeShape : Captured timeShape text captures ↔
    ∃ hour minute second fraction zone, IsDigits 2 hour ∧ IsDigits 2 minute ∧ IsDigits 2 second ∧
      IsDigits 6 fraction ∧ ZoneShape zone ∧
      text = hour ++ ':' :: (minute ++ ':' :: (second ++ '.' :: (fraction ++ zone))) ∧
      captures = [(.hour, hour), (.minute, minute), (.second, second), (.microsecond, fraction),
        (.zone, zone)] := by
  constructor
  · intro captured
    obtain ⟨hour, _, _, hours, afterHour, rfl, rfl⟩ := captured_field.1 captured
    obtain ⟨minute, _, _, minutes, afterMinute, rfl, rfl⟩ := captured_field.1 afterHour
    obtain ⟨second, _, _, seconds, afterSecond, rfl, rfl⟩ := captured_field.1 afterMinute
    cases afterSecond with
    | digits fractions last =>
      obtain ⟨zones, rfl⟩ := captured_zone.1 last
      exact ⟨hour, minute, second, _, _, hours, minutes, seconds, fractions, zones, rfl, rfl⟩
  · rintro ⟨hour, minute, second, fraction, zone, hours, minutes, seconds, fractions, zones, rfl,
      rfl⟩
    exact .digits hours (.char (.digits minutes (.char (.digits seconds (.char
      (.digits fractions (captured_zone.2 ⟨zones, rfl⟩)))))))

/-- Six digits never make a leap second. -/
theorem TimeOfDay.isReal_iff (time : TimeOfDay) (short : time.microsecond < 1000000) :
    time.isReal = true ↔ time.hour ≤ 23 ∧ time.minute ≤ 59 ∧ time.second ≤ 59 := by
  simp [isReal, short, and_assoc]

theorem validTime_eq (hours : IsDigits 2 hour) (minutes : IsDigits 2 minute)
    (seconds : IsDigits 2 second) (fractions : IsDigits 6 fraction) :
    validTime ([(.year, year), (.month, month), (.day, day)] ++ [(.hour, hour), (.minute, minute),
      (.second, second), (.microsecond, fraction), (.zone, zone)]) =
      (TimeOfDay.mk (valueOf hour) (valueOf minute) (valueOf second)
        (valueOf fraction)).isReal := by
  rw [validTime, Captures.number?_eq rfl hours (by decide) (by decide),
    Captures.number?_eq rfl minutes (by decide) (by decide),
    Captures.number?_eq rfl seconds (by decide) (by decide),
    Captures.number?_eq rfl fractions (by decide) (by decide)]

theorem isOffset_eq_true {sign : Int} {hours minutes : Nat} (unit : sign = 1 ∨ sign = -1)
    (early : hours ≤ 23) (late : minutes ≤ 59) :
    isOffset (sign * (hours * 3600 + minutes * 60)) = true := by
  rw [isOffset, Bool.and_eq_true, decide_eq_true_eq, decide_eq_true_eq]
  cases unit with
  | inl east => subst east; omega
  | inr west => subst west; omega

theorem validZone_offset {sign : Char} {hours colon minutes : List Char}
    (signed : sign = '+' ∨ sign = '-') (first : IsDigits 2 hours)
    (colons : colon = [] ∨ colon = [':']) (second : IsDigits 2 minutes) :
    validZone (sign :: hours ++ colon ++ minutes) = true ↔
      valueOf hours ≤ 23 ∧ valueOf minutes ≤ 59 := by
  have notUtc : sign :: hours ++ colon ++ minutes ≠ ['Z'] := by
    intro same
    rw [List.head_eq_of_cons_eq same] at signed
    revert signed
    decide
  -- As a colon is no digit, the digits are those of the hours and behind them those of the minutes.
  have digits : (hours ++ colon ++ minutes).filter Char.isDigit = hours ++ minutes := by
    have none : colon.filter Char.isDigit = [] := by
      cases colons with
      | inl absent => rw [absent]; rfl
      | inr present => rw [present]; rfl
    rw [List.filter_append, List.filter_append, none, List.append_nil,
      List.filter_eq_self.2 first.isDigit, List.filter_eq_self.2 second.isDigit]
  have hoursRead : number? signedLimit hours = some (valueOf hours) :=
    first.number?_eq (by decide) (by decide)
  have minutesRead : number? signedLimit minutes = some (valueOf minutes) :=
    second.number?_eq (by decide) (by decide)
  have start : (hours ++ minutes).take 2 = hours := List.take_left' first.length_eq
  have rest : (hours ++ minutes).drop 2 = minutes := List.drop_left' first.length_eq
  rw [validZone, decide_eq_false notUtc]
  simp only [List.cons_append, List.tail_cons, digits, start, rest, hoursRead, minutesRead,
    Bool.false_or, Bool.and_eq_true, decide_eq_true_eq]
  have unit (start : Prop) [Decidable start] :
      (if start then (-1 : Int) else 1) = 1 ∨ (if start then (-1 : Int) else 1) = -1 := by
    split
    · exact .inr rfl
    · exact .inl rfl
  exact and_iff_left_of_imp fun range => isOffset_eq_true (unit _) range.1 range.2

theorem isZoneText_iff : IsZoneText zone ↔ ZoneShape zone ∧ validZone zone = true := by
  constructor
  · intro written
    cases written with
    | utc => exact ⟨.utc, rfl⟩
    | @offset sign early late colon signed hours colons minutes =>
      have first : IsDigits 2 (padded 2 early) := isDigits_padded (by decide) (by omega)
      have second : IsDigits 2 (padded 2 late) := isDigits_padded (by decide) (by omega)
      refine ⟨.offset signed first colons second,
        (validZone_offset signed first colons second).2 ?_⟩
      rw [valueOf_padded, valueOf_padded]
      exact ⟨hours, minutes⟩
  · rintro ⟨shape, valid⟩
    cases shape with
    | utc => exact .utc
    | offset signed first colons second =>
      obtain ⟨hours, minutes⟩ := (validZone_offset signed first colons second).1 valid
      rw [first.eq_padded (by decide), second.eq_padded (by decide)]
      exact .offset signed hours colons minutes

theorem timestamp_valid_iff (years : IsDigits 4 year) (months : IsDigits 2 month)
    (days : IsDigits 2 day) (hours : IsDigits 2 hour) (minutes : IsDigits 2 minute)
    (seconds : IsDigits 2 second) (fractions : IsDigits 6 fraction) :
    timestamp.valid ([(.year, year), (.month, month), (.day, day)] ++ [(.hour, hour),
      (.minute, minute), (.second, second), (.microsecond, fraction), (.zone, zone)]) = true ↔
      (Date.mk (valueOf year) (valueOf month) (valueOf day)).isReal = true ∧
        (valueOf hour ≤ 23 ∧ valueOf minute ≤ 59 ∧ valueOf second ≤ 59) ∧
          validZone zone = true := by
  have short : valueOf fraction < 1000000 := fractions.valueOf_lt
  have clock := TimeOfDay.isReal_iff
    ⟨valueOf hour, valueOf minute, valueOf second, valueOf fraction⟩ short
  simp only [timestamp, Bool.and_eq_true, validDate_eq _ years months days,
    validTime_eq hours minutes seconds fractions, clock, and_assoc]
  exact Iff.rfl

theorem isTimestamp_iff : isTimestamp text = true ↔ IsTimestampText text := by
  rw [isTimestamp, DatePattern.accepts_iff]
  constructor
  · rintro ⟨captures, captured, valid⟩
    obtain ⟨date, after, dates, others, rfl, rfl, first, behind⟩ := captured_append.1 captured
    obtain ⟨year, month, day, years, months, days, rfl, rfl⟩ := captured_dateShape.1 first
    cases behind with
    | char behind =>
      obtain ⟨hour, minute, second, fraction, zone, hours, minutes, seconds, fractions, zones, rfl,
        rfl⟩ := captured_timeShape.1 behind
      obtain ⟨real, ⟨early, late, last⟩, offset⟩ :=
        (timestamp_valid_iff years months days hours minutes seconds fractions).1 valid
      have date := isDateText_iff.2 ⟨year, month, day, years, months, days, rfl, real⟩
      have written := IsTimestampText.mk date early late last fractions
        (isZoneText_iff.2 ⟨zones, offset⟩)
      rw [clockText, ← hours.eq_padded (by decide), ← minutes.eq_padded (by decide),
        ← seconds.eq_padded (by decide)] at written
      simp only [List.append_assoc, List.cons_append] at written ⊢
      exact written
  · intro written
    cases written with
    | @mk date fraction zone hour minute second dates early late last fractions zones =>
      obtain ⟨year, month, day, years, months, days, rfl, real⟩ := isDateText_iff.1 dates
      obtain ⟨offset, valid⟩ := isZoneText_iff.1 zones
      have hours : IsDigits 2 (padded 2 hour) := isDigits_padded (by decide) (by omega)
      have minutes : IsDigits 2 (padded 2 minute) := isDigits_padded (by decide) (by omega)
      have seconds : IsDigits 2 (padded 2 second) := isDigits_padded (by decide) (by omega)
      have first := captured_dateShape.2 ⟨_, _, _, years, months, days, rfl, rfl⟩
      have behind := captured_timeShape.2
        ⟨_, _, _, _, _, hours, minutes, seconds, fractions, offset, rfl, rfl⟩
      refine ⟨_, captured_append.2 ⟨_, _, _, _, ?_, rfl, first, .char behind⟩, ?_⟩
      · simp only [clockText, List.append_assoc, List.cons_append]
      · rw [timestamp_valid_iff years months days hours minutes seconds fractions, valueOf_padded,
          valueOf_padded, valueOf_padded]
        exact ⟨real, ⟨early, late, last⟩, valid⟩

end

/-- Each recognizer accepts exactly the texts of its language. -/
theorem recognizers_exact (text : String) :
    (isDateOnly text.toList = true ↔ IsDateText text.toList) ∧
      (isTimestamp text.toList = true ↔ IsTimestampText text.toList) :=
  ⟨isDateOnly_iff, isTimestamp_iff⟩

end ShapeInference.Literal
