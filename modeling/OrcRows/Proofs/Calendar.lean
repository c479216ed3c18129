import OrcRows.Calendar
import Mathlib.Tactic.IntervalCases

/-!
# Days of the calendar and their numbers

A day of the calendar has a number, counted from 1970-01-01, and the next day has the next number.
The civil date that is read off a number is the day that has it. From this the range of dates is
exactly the days of the years 1 to 9999.
-/

namespace OrcRows

namespace Civil

/-- There is such a day: the year is not before the first, the month is one of twelve, and the day
is one of the month. -/
structure IsDay (civil : Civil) : Prop where
  /-- The year is not before the first. -/
  year_pos : 1 ≤ civil.year
  /-- The month is not before January. -/
  month_pos : 1 ≤ civil.month
  /-- The month is not after December. -/
  month_le : civil.month ≤ 12
  /-- The day is not before the first of the month. -/
  day_pos : 1 ≤ civil.day
  /-- The day is not after the last of the month. -/
  day_le : civil.day ≤ monthLength civil.year civil.month

/-- The day after a day. -/
def next (civil : Civil) : Civil :=
  if civil.day < monthLength civil.year civil.month then ⟨civil.year, civil.month, civil.day + 1⟩
  else if civil.month < 12 then ⟨civil.year, civil.month + 1, 1⟩
  else ⟨civil.year + 1, 1, 1⟩

/-- The number of a day, counted from 1970-01-01. -/
def epochDay (civil : Civil) : Int := civil.toMarchDay - 719468

/-- The day 1970-01-01 has the number zero. -/
theorem epochDay_epoch : epochDay ⟨1970, 1, 1⟩ = 0 := rfl

section Numbering

variable {year month day : Nat}

/-- A year is a leap year if it is divisible by 4, and by 400 if it is by 100. -/
theorem isLeap_iff (year : Nat) :
    isLeap year = true ↔ year % 4 = 0 ∧ (year % 100 ≠ 0 ∨ year % 400 = 0) := by
  simp [isLeap]

/-- February has 28 days, and 29 in leap years. -/
theorem monthLength_february (year : Nat) :
    monthLength year 2 = if year % 4 = 0 ∧ (year % 100 ≠ 0 ∨ year % 400 = 0) then 29 else 28 := by
  simp only [monthLength, if_true, isLeap_iff]

/-- The number of days before the first of March of a year: 365 for every year, and the leap
days. -/
def daysBefore (year : Nat) : Nat := 365 * year + year / 4 - year / 100 + year / 400

/-- A year from March to March has as many days as there are with the February at its end. -/
theorem daysBefore_eq (hyear : 1 ≤ year) :
    daysBefore year = daysBefore (year - 1) + 337 + monthLength year 2 := by
  obtain ⟨before, rfl⟩ : ∃ before, year = before + 1 := ⟨year - 1, by omega⟩
  rw [monthLength_february]
  simp only [daysBefore, Nat.add_sub_cancel]
  by_cases fourth : (before + 1) % 4 = 0
  · have fourths : (before + 1) / 4 = before / 4 + 1 := by omega
    by_cases hundredth : (before + 1) % 100 = 0
    · have hundreds : (before + 1) / 100 = before / 100 + 1 := by omega
      split
      case isTrue leap =>
        have eras : (before + 1) / 400 = before / 400 + 1 := by omega
        omega
      case isFalse common =>
        have eras : (before + 1) / 400 = before / 400 := by omega
        omega
    · have hundreds : (before + 1) / 100 = before / 100 := by omega
      have eras : (before + 1) / 400 = before / 400 := by omega
      rw [if_pos ⟨fourth, .inl hundredth⟩]
      omega
  · have fourths : (before + 1) / 4 = before / 4 := by omega
    have hundreds : (before + 1) / 100 = before / 100 := by omega
    have eras : (before + 1) / 400 = before / 400 := by omega
    rw [if_neg fun leap => fourth leap.1]
    omega

/-- January and February belong to the year that began in March before. -/
theorem toMarchDay_of_le (h : month ≤ 2) :
    toMarchDay ⟨year, month, day⟩ =
      daysBefore (year - 1) + ((153 * (month + 9) + 2) / 5 + day - 1) := by
  simp only [toMarchDay, daysBefore, if_pos h, if_neg (Nat.not_lt.mpr h)]
  omega

/-- From March on the months belong to the year that began in March. -/
theorem toMarchDay_of_lt (h : 2 < month) :
    toMarchDay ⟨year, month, day⟩ =
      daysBefore year + ((153 * (month - 3) + 2) / 5 + day - 1) := by
  simp only [toMarchDay, daysBefore, if_neg (Nat.not_le.mpr h), if_pos h]
  omega

/-- Days of one month are numbered one by one. -/
theorem toMarchDay_day (hday : 1 ≤ day) :
    toMarchDay ⟨year, month, day + 1⟩ = toMarchDay ⟨year, month, day⟩ + 1 := by
  simp only [toMarchDay]
  omega

/-- The first of a month has the number after the last of the month before. -/
theorem toMarchDay_month (hyear : 1 ≤ year) (hmonth : 1 ≤ month) (hlast : month < 12) :
    toMarchDay ⟨year, month + 1, 1⟩ = toMarchDay ⟨year, month, monthLength year month⟩ + 1 := by
  by_cases early : month ≤ 2
  · obtain rfl | rfl : month = 1 ∨ month = 2 := by omega
    · rw [toMarchDay_of_le (by omega), toMarchDay_of_le (by omega)]
      simp [monthLength]
    · rw [toMarchDay_of_lt (by omega), toMarchDay_of_le (by omega), daysBefore_eq hyear,
        monthLength_february]
      split <;> omega
  · rw [toMarchDay_of_lt (by omega), toMarchDay_of_lt (by omega), monthLength,
      if_neg (show month ≠ 2 by omega)]
    interval_cases month <;> simp

/-- The first of January has the number after the last of December. -/
theorem toMarchDay_january (year : Nat) :
    toMarchDay ⟨year + 1, 1, 1⟩ = toMarchDay ⟨year, 12, 31⟩ + 1 := by
  rw [toMarchDay_of_le (by omega), toMarchDay_of_lt (by omega)]
  simp

end Numbering

/-- The next day has the next number. -/
theorem epochDay_next {civil : Civil} (h : civil.IsDay) :
    civil.next.epochDay = civil.epochDay + 1 := by
  obtain ⟨year, month, day⟩ := civil
  obtain ⟨hyear, hmonth, hmonth', hday, hday'⟩ := h
  dsimp only at hyear hmonth hmonth' hday hday'
  have count : toMarchDay (next ⟨year, month, day⟩) = toMarchDay ⟨year, month, day⟩ + 1 := by
    rw [next]
    split
    case isTrue inside => exact toMarchDay_day hday
    case isFalse last =>
      obtain rfl : day = monthLength year month := by dsimp only at last; omega
      split
      case isTrue inside => exact toMarchDay_month hyear hmonth inside
      case isFalse december =>
        obtain rfl : month = 12 := by dsimp only at december; omega
        exact toMarchDay_january year
  rw [epochDay, epochDay, count]
  omega

/-- The day after a day is a day. -/
theorem IsDay.next {civil : Civil} (h : civil.IsDay) : civil.next.IsDay := by
  obtain ⟨year, month, day⟩ := civil
  obtain ⟨hyear, hmonth, hmonth', hday, hday'⟩ := h
  dsimp only at hyear hmonth hmonth' hday hday'
  have some (year month : Nat) : 1 ≤ monthLength year month := by
    rw [monthLength]
    split <;> split <;> omega
  rw [Civil.next]
  split
  case isTrue inside => exact ⟨hyear, hmonth, hmonth', Nat.le_add_left 1 day, inside⟩
  case isFalse =>
    split
    case isTrue inside => exact ⟨hyear, Nat.le_add_left 1 month, inside, le_rfl, some _ _⟩
    case isFalse =>
      exact ⟨Nat.le_add_left 1 year, le_rfl, Nat.le_add_left 1 11, le_rfl, some _ _⟩

/-- The days that follow a day have the numbers that follow its number. -/
theorem IsDay.iterate_next {civil : Civil} (h : civil.IsDay) (count : Nat) :
    (Civil.next^[count] civil).IsDay ∧
      (Civil.next^[count] civil).epochDay = civil.epochDay + count := by
  induction count with
  | zero => exact ⟨h, (Int.add_zero _).symm⟩
  | succ count ih =>
    obtain ⟨isDay, number⟩ := ih
    rw [Function.iterate_succ_apply']
    refine ⟨isDay.next, ?_⟩
    rw [epochDay_next isDay, number]
    omega

/-- The days of the years 1 to 9999 are those with a number from that of 0001-01-01 to that of
9999-12-31. -/
theorem IsDay.year_le_iff {civil : Civil} (h : civil.IsDay) :
    civil.year ≤ 9999 ↔ civil.epochDay ≤ 2932896 := by
  obtain ⟨year, month, day⟩ := civil
  obtain ⟨hyear, hmonth, hmonth', hday, hday'⟩ := h
  have long : monthLength year month ≤ 31 := by
    rw [monthLength]
    split <;> split <;> omega
  dsimp only at hyear hmonth hmonth' hday hday' ⊢
  simp only [epochDay]
  by_cases early : month ≤ 2
  · rw [toMarchDay_of_le early, daysBefore]
    omega
  · rw [toMarchDay_of_lt (by omega), daysBefore]
    omega

/-- No day is before 0001-01-01. -/
theorem IsDay.le_epochDay {civil : Civil} (h : civil.IsDay) : -719162 ≤ civil.epochDay := by
  obtain ⟨year, month, day⟩ := civil
  obtain ⟨hyear, hmonth, hmonth', hday, hday'⟩ := h
  dsimp only at hyear hmonth hmonth' hday hday'
  simp only [epochDay]
  by_cases early : month ≤ 2
  · rw [toMarchDay_of_le early, daysBefore]
    omega
  · rw [toMarchDay_of_lt (by omega), daysBefore]
    omega

/-- A day of an era of 400 years, taken apart into the centuries, the cycles of four years and the
years that are over, each of them from a first of March, and the days since. -/
structure EraDay where
  /-- Whole centuries. -/
  century : Nat
  /-- Whole cycles of four years within the century. -/
  cycle : Nat
  /-- Whole years within the cycle. -/
  year : Nat
  /-- Days within the year. -/
  day : Nat
  /-- There are four centuries in an era. -/
  century_le : century ≤ 3
  /-- There are 25 cycles in a century. -/
  cycle_le : cycle ≤ 24
  /-- There are four years in a cycle. -/
  year_le : year ≤ 3
  /-- There are up to 366 days in a year. -/
  day_le : day ≤ 365
  /-- The last year of a cycle may have one day more than the others; in the last cycle of a century
  it does in the last century only. -/
  leap : day = 365 → year = 3 ∧ (cycle < 24 ∨ century = 3)

namespace EraDay

/-- The number of the year within the era. -/
def yearOfEra (parts : EraDay) : Nat := 100 * parts.century + 4 * parts.cycle + parts.year

/-- The number of the day within the era. -/
def dayOfEra (parts : EraDay) : Nat :=
  36524 * parts.century + 1461 * parts.cycle + 365 * parts.year + parts.day

/-- Every day of an era has its parts. -/
theorem exists_dayOfEra_eq {dayOfEra : Nat} (h : dayOfEra < 146097) :
    ∃ parts : EraDay, parts.dayOfEra = dayOfEra := by
  let century := min (dayOfEra / 36524) 3
  let rest := dayOfEra - 36524 * century
  let year := min (rest % 1461 / 365) 3
  exact ⟨⟨century, rest / 1461, year, rest % 1461 - 365 * year, by omega, by omega, by omega,
    by omega, by omega⟩, by simp only [EraDay.dayOfEra]; omega⟩

/-- The year of a day, found by leaving out the leap days before it. -/
theorem yearOfEra_eq (parts : EraDay) :
    (parts.dayOfEra - parts.dayOfEra / 1460 + parts.dayOfEra / 36524 -
      parts.dayOfEra / 146096) / 365 = parts.yearOfEra := by
  obtain ⟨century, cycle, year, day, hcentury, hcycle, hyear, hday, hleap⟩ := parts
  simp only [dayOfEra, yearOfEra]
  generalize hn : 36524 * century + 1461 * cycle + 365 * year + day = n
  -- The very last day of the era counts as a further century, and is taken off again.
  have eras : n / 146096 =
      if century = 3 ∧ cycle = 24 ∧ year = 3 ∧ day = 365 then 1 else 0 := by
    split <;> omega
  have centuries : n / 36524 =
      century + if century = 3 ∧ cycle = 24 ∧ year = 3 ∧ day = 365 then 1 else 0 := by
    split <;> omega
  have cycles : n / 1460 =
      25 * century + cycle + if 1460 ≤ 24 * century + cycle + 365 * year + day then 1 else 0 := by
    split <;> omega
  rw [eras, centuries, cycles]
  split <;> split <;> omega

/-- The days of an era before a day of it: those of the years before, and those within the year. -/
theorem dayOfEra_eq (parts : EraDay) :
    parts.dayOfEra =
      365 * parts.yearOfEra + parts.yearOfEra / 4 - parts.yearOfEra / 100 + parts.day := by
  obtain ⟨century, cycle, year, day, hcentury, hcycle, hyear, hday, hleap⟩ := parts
  simp only [dayOfEra, yearOfEra]
  omega

/-- There are 400 years in an era. -/
theorem yearOfEra_lt (parts : EraDay) : parts.yearOfEra < 400 := by
  obtain ⟨century, cycle, year, day, hcentury, hcycle, hyear, hday, hleap⟩ := parts
  simp only [yearOfEra]
  omega

/-- There are 146097 days in an era. -/
theorem dayOfEra_lt (parts : EraDay) : parts.dayOfEra < 146097 := by
  obtain ⟨century, cycle, year, day, hcentury, hcycle, hyear, hday, hleap⟩ := parts
  simp only [dayOfEra]
  omega

/-- A year of 366 days from March on ends with the February of a leap year. -/
theorem isLeap_of_day_eq (parts : EraDay) (era : Nat) (h : parts.day = 365) :
    monthLength (parts.yearOfEra + era * 400 + 1) 2 = 29 := by
  obtain ⟨century, cycle, year, day, hcentury, hcycle, hyear, hday, hleap⟩ := parts
  rw [monthLength_february, if_pos]
  simp only [yearOfEra]
  dsimp only at h
  omega

/-- The month of a day, counted from March. -/
def monthOfYear (parts : EraDay) : Nat := (5 * parts.day + 2) / 153

/-- The day within its month, counted from zero. -/
def dayOfMonth (parts : EraDay) : Nat := parts.day - (153 * parts.monthOfYear + 2) / 5

/-- There are twelve months. -/
theorem monthOfYear_le (parts : EraDay) : parts.monthOfYear ≤ 11 := by
  have := parts.day_le
  simp only [monthOfYear]
  omega

/-- The days of a year before a day of it: those of the months before, and those within the
month. -/
theorem day_eq (parts : EraDay) :
    parts.day = (153 * parts.monthOfYear + 2) / 5 + parts.dayOfMonth := by
  simp only [dayOfMonth, monthOfYear]
  omega

/-- The civil date of a day in an era. -/
def civil (parts : EraDay) (era : Nat) : Civil :=
  if parts.monthOfYear < 10 then
    ⟨parts.yearOfEra + era * 400, parts.monthOfYear + 3, parts.dayOfMonth + 1⟩
  else ⟨parts.yearOfEra + era * 400 + 1, parts.monthOfYear - 9, parts.dayOfMonth + 1⟩

/-- The civil date that is read off a number is that of its parts. -/
theorem ofMarchDay_eq (parts : EraDay) (era : Nat) :
    ofMarchDay (era * 146097 + parts.dayOfEra) = parts.civil era := by
  have small := parts.dayOfEra_lt
  have eras : (era * 146097 + parts.dayOfEra) / 146097 = era := by omega
  have rest : (era * 146097 + parts.dayOfEra) % 146097 = parts.dayOfEra := by omega
  have days : parts.dayOfEra -
      (365 * parts.yearOfEra + parts.yearOfEra / 4 - parts.yearOfEra / 100) = parts.day := by
    have := parts.dayOfEra_eq
    omega
  have shifted : (5 * parts.day + 2) / 153 = parts.monthOfYear := rfl
  have last := parts.monthOfYear_le
  simp only [ofMarchDay, eras, rest, parts.yearOfEra_eq, days, shifted]
  by_cases spring : parts.monthOfYear < 10
  · rw [civil, if_pos spring, if_pos spring, if_neg (by omega), Nat.add_zero, dayOfMonth]
  · rw [civil, if_neg spring, if_neg spring, if_pos (by omega), dayOfMonth]

/-- The days before an era and those of its years before one of them are the days before that
year. -/
theorem daysBefore_yearOfEra (parts : EraDay) (era : Nat) :
    daysBefore (parts.yearOfEra + era * 400) + parts.day = era * 146097 + parts.dayOfEra := by
  have few := parts.yearOfEra_lt
  rw [parts.dayOfEra_eq, daysBefore]
  omega

/-- The civil date of a day in an era has the number of that day. -/
theorem toMarchDay_civil (parts : EraDay) (era : Nat) :
    (parts.civil era).toMarchDay = era * 146097 + parts.dayOfEra := by
  have last := parts.monthOfYear_le
  have month := parts.day_eq
  rw [← parts.daysBefore_yearOfEra, civil]
  split
  case isTrue spring =>
    rw [toMarchDay_of_lt (by omega), Nat.add_sub_cancel]
    omega
  case isFalse winter =>
    rw [toMarchDay_of_le (by omega), Nat.add_sub_cancel]
    omega

/-- The months from March to December, counted from March, have as many days as lie between their
firsts. -/
theorem monthLength_spring (year : Nat) {month : Nat} (h : month < 10) :
    monthLength year (month + 3) = (153 * (month + 1) + 2) / 5 - (153 * month + 2) / 5 := by
  interval_cases month <;> rfl

/-- The civil date of a day in an era is a day, if its year is not before the first. -/
theorem isDay_civil (parts : EraDay) (era : Nat) (hyear : 1 ≤ (parts.civil era).year) :
    (parts.civil era).IsDay := by
  have last := parts.monthOfYear_le
  have month := parts.day_eq
  have next : parts.day < (153 * (parts.monthOfYear + 1) + 2) / 5 := by
    simp only [monthOfYear]
    omega
  by_cases spring : parts.monthOfYear < 10
  · rw [civil, if_pos spring] at hyear ⊢
    refine ⟨hyear, by dsimp only; omega, by dsimp only; omega, by dsimp only; omega, ?_⟩
    rw [monthLength_spring _ spring]
    dsimp only
    omega
  · rw [civil, if_neg spring] at hyear ⊢
    refine ⟨hyear, by dsimp only; omega, by dsimp only; omega, by dsimp only; omega, ?_⟩
    obtain january | february : parts.monthOfYear = 10 ∨ parts.monthOfYear = 11 := by omega
    · rw [january] at month next ⊢
      change parts.dayOfMonth + 1 ≤ 31
      omega
    · rw [february] at month ⊢
      change parts.dayOfMonth + 1 ≤ monthLength _ 2
      by_cases long : parts.day = 365
      · rw [parts.isLeap_of_day_eq era long]
        omega
      · have := parts.day_le
        rw [monthLength_february]
        split <;> omega

/-- A year from March to March has every day of its twelve months, and a day more at the end of the
last one in the years that end with a leap day. -/
theorem exists_eq {year month day : Nat} (hmonth : month ≤ 11)
    (hday : (153 * month + 2) / 5 + day < min ((153 * (month + 1) + 2) / 5) 366)
    (hleap : (153 * month + 2) / 5 + day = 365 →
      (year + 1) % 4 = 0 ∧ ((year + 1) % 100 ≠ 0 ∨ (year + 1) % 400 = 0)) :
    ∃ parts : EraDay, parts.yearOfEra = year % 400 ∧ parts.monthOfYear = month ∧
      parts.dayOfMonth = day := by
  have among : (5 * ((153 * month + 2) / 5 + day) + 2) / 153 = month := by
    interval_cases month <;> omega
  refine ⟨⟨year % 400 / 100, year % 100 / 4, year % 4, (153 * month + 2) / 5 + day, by omega,
    by omega, by omega, by omega, by omega⟩, ?_, among, ?_⟩
  · simp only [yearOfEra]
    omega
  · simp only [dayOfMonth, monthOfYear, among]
    omega

/-- Every day of the calendar is a day in an era. -/
theorem exists_civil_eq {civil : Civil} (h : civil.IsDay) :
    ∃ (parts : EraDay) (era : Nat), parts.civil era = civil := by
  obtain ⟨year, month, day⟩ := civil
  obtain ⟨hyear, hmonth, hmonth', hday, hday'⟩ := h
  dsimp only at hyear hmonth hmonth' hday hday'
  by_cases early : month ≤ 2
  · have last : (153 * (month + 9) + 2) / 5 + (day - 1) <
        min ((153 * (month + 9 + 1) + 2) / 5) 366 ∧
        ((153 * (month + 9) + 2) / 5 + (day - 1) = 365 →
          year % 4 = 0 ∧ (year % 100 ≠ 0 ∨ year % 400 = 0)) := by
      obtain rfl | rfl : month = 1 ∨ month = 2 := by omega
      · change day ≤ 31 at hday'
        omega
      · rw [monthLength_february] at hday'
        split at hday' <;> omega
    obtain ⟨bound, leap⟩ := last
    rw [← Nat.sub_add_cancel hyear] at leap
    obtain ⟨parts, years, months, days⟩ := exists_eq (by omega) bound leap
    refine ⟨parts, (year - 1) / 400, ?_⟩
    rw [EraDay.civil, if_neg (by omega), years, months, days, Civil.mk.injEq]
    omega
  · obtain ⟨shifted, rfl⟩ : ∃ shifted, month = shifted + 3 := ⟨month - 3, by omega⟩
    rw [monthLength_spring year (by omega)] at hday'
    have bound : (153 * shifted + 2) / 5 + (day - 1) <
        min ((153 * (shifted + 1) + 2) / 5) 366 := by omega
    have leap : (153 * shifted + 2) / 5 + (day - 1) = 365 →
        (year + 1) % 4 = 0 ∧ ((year + 1) % 100 ≠ 0 ∨ (year + 1) % 400 = 0) := by omega
    obtain ⟨parts, years, months, days⟩ := exists_eq (by omega) bound leap
    refine ⟨parts, year / 400, ?_⟩
    rw [EraDay.civil, if_pos (by omega), years, months, days, Civil.mk.injEq]
    omega

end EraDay

/-- The civil date that is read off a number has that number. -/
theorem toMarchDay_ofMarchDay (day : Nat) : (ofMarchDay day).toMarchDay = day := by
  obtain ⟨parts, hparts⟩ := EraDay.exists_dayOfEra_eq (Nat.mod_lt day (by norm_num))
  have split : day / 146097 * 146097 + parts.dayOfEra = day := by
    rw [hparts]
    omega
  rw [← split, parts.ofMarchDay_eq, parts.toMarchDay_civil]

/-- The civil date that is read off the number of a day is a day, from 0001-01-01 on. -/
theorem isDay_ofMarchDay {day : Nat} (h : 306 ≤ day) : (ofMarchDay day).IsDay := by
  obtain ⟨parts, hparts⟩ := EraDay.exists_dayOfEra_eq (Nat.mod_lt day (by norm_num))
  have split : day / 146097 * 146097 + parts.dayOfEra = day := by
    rw [hparts]
    omega
  rw [← split, parts.ofMarchDay_eq]
  refine parts.isDay_civil _ ?_
  have first := parts.dayOfEra_eq
  rw [EraDay.civil]
  split
  case isTrue spring =>
    rw [EraDay.monthOfYear] at spring
    dsimp only
    omega
  case isFalse winter => exact Nat.le_add_left 1 _

/-- The civil date that is read off the number of a day is that day. -/
theorem ofMarchDay_toMarchDay {civil : Civil} (h : civil.IsDay) :
    ofMarchDay civil.toMarchDay = civil := by
  obtain ⟨parts, era, rfl⟩ := EraDay.exists_civil_eq h
  rw [parts.toMarchDay_civil, parts.ofMarchDay_eq]

/-- No two days have the same number. -/
theorem IsDay.eq_of_epochDay_eq {civil other : Civil} (h : civil.IsDay) (h' : other.IsDay)
    (same : civil.epochDay = other.epochDay) : civil = other := by
  have count : civil.toMarchDay = other.toMarchDay := by
    rw [epochDay, epochDay] at same
    omega
  rw [← ofMarchDay_toMarchDay h, count, ofMarchDay_toMarchDay h']

/-- The number of a day is the number of days from 1970-01-01 to it, or from it to 1970-01-01 if it
is negative. -/
theorem IsDay.epochDay_eq_iff {civil : Civil} (h : civil.IsDay) (days : Int) :
    civil.epochDay = days ↔
      Civil.next^[(-days).toNat] civil = Civil.next^[days.toNat] ⟨1970, 1, 1⟩ := by
  have epoch : IsDay ⟨1970, 1, 1⟩ := by constructor <;> decide
  obtain ⟨isDay, number⟩ := h.iterate_next (-days).toNat
  obtain ⟨isDay', number'⟩ := epoch.iterate_next days.toNat
  rw [epochDay_epoch] at number'
  constructor
  · intro same
    apply isDay.eq_of_epochDay_eq isDay'
    omega
  · intro same
    rw [same] at number
    omega

/-- A number of days from 1970-01-01 on leads to a day of the years 1 to 9999. -/
def InYears (epochDay : Int) : Prop :=
  ∃ civil : Civil, civil.IsDay ∧ civil.year ≤ 9999 ∧ civil.epochDay = epochDay

/-- The days of the years 1 to 9999 are those from 719162 days before 1970-01-01 to 2932896 days
after it. -/
theorem inYears_iff {epochDay : Int} :
    InYears epochDay ↔ -719162 ≤ epochDay ∧ epochDay ≤ 2932896 := by
  constructor
  · rintro ⟨civil, isDay, hyear, rfl⟩
    exact ⟨isDay.le_epochDay, isDay.year_le_iff.mp hyear⟩
  · rintro ⟨hfirst, hlast⟩
    have isDay := isDay_ofMarchDay (show 306 ≤ (epochDay + 719468).toNat by omega)
    have count : (ofMarchDay (epochDay + 719468).toNat).epochDay = epochDay := by
      rw [Civil.epochDay, toMarchDay_ofMarchDay]
      omega
    exact ⟨_, isDay, isDay.year_le_iff.mpr (by rw [count]; exact hlast), count⟩

end Civil

namespace Date

/-- Year, month and day of a date are a day, and the day with the number of the date. -/
theorem civil_isDay (date : Date) : date.civil.IsDay ∧ date.civil.epochDay = date.epochDay := by
  have range := date.inRange
  refine ⟨Civil.isDay_ofMarchDay (by omega), ?_⟩
  rw [civil, Civil.epochDay, Civil.toMarchDay_ofMarchDay]
  omega

/-- A number of days from 1970-01-01 on gives a date exactly in the years 1 to 9999. -/
theorem ofEpochDay?_isSome_iff {epochDay : Int} :
    (ofEpochDay? epochDay).isSome ↔ Civil.InYears epochDay := by
  rw [Civil.inYears_iff, ofEpochDay?]
  split <;> simp_all

end Date

end OrcRows
