/-!
# Dates, times of day and timestamps

The calendar is the Gregorian one, extended to all years from 1 to 9999. A date is its day count
from 1970-01-01, a time of day its microseconds from midnight, a timestamp its microseconds from
the start of 1970-01-01; each carries the proof that it lies in range. Year, month and day are read
off the day count, in which a year is counted from the first of March.
-/

namespace OrcRows

/-- A date between the years 1 and 9999. -/
structure Date where
  /-- Days from 1970-01-01. -/
  epochDay : Int
  /-- The date lies in the years 1 to 9999. -/
  inRange : -719162 ≤ epochDay ∧ epochDay ≤ 2932896
  deriving DecidableEq

/-- A time of day with microseconds. -/
structure TimeOfDay where
  /-- Microseconds from midnight. -/
  micros : Nat
  /-- The time lies within one day. -/
  inRange : micros < 86400000000
  deriving DecidableEq

/-- A date with a time of day, without a time zone. -/
structure Timestamp where
  /-- Microseconds from the start of 1970-01-01. -/
  micros : Int
  /-- The timestamp lies in the years 1 to 9999. -/
  inRange : -62135596800000000 ≤ micros ∧ micros < 253402300800000000
  deriving DecidableEq

/-- A date as year, month and day of the month. -/
structure Civil where
  /-- Year, from 1. -/
  year : Nat
  /-- Month, from 1 to 12. -/
  month : Nat
  /-- Day of the month, from 1. -/
  day : Nat
  deriving DecidableEq, Repr

/-- A natural in decimal with at least `width` digits. -/
def padded (width n : Nat) : String :=
  let shown := Nat.toDigits 10 n
  String.ofList (List.replicate (width - shown.length) '0' ++ shown)

namespace Civil

/-- A year with a 29th of February. -/
def isLeap (year : Nat) : Bool := year % 4 == 0 && (year % 100 != 0 || year % 400 == 0)

/-- Number of days of a month. -/
def monthLength (year month : Nat) : Nat :=
  if month = 2 then (if isLeap year then 29 else 28)
  else if month = 4 ∨ month = 6 ∨ month = 9 ∨ month = 11 then 30
  else 31

/-- The civil date of a day counted from the first of March of the year 0. -/
def ofMarchDay (day : Nat) : Civil :=
  let era := day / 146097
  let dayOfEra := day % 146097
  let yearOfEra :=
    (dayOfEra - dayOfEra / 1460 + dayOfEra / 36524 - dayOfEra / 146096) / 365
  let dayOfYear := dayOfEra - (365 * yearOfEra + yearOfEra / 4 - yearOfEra / 100)
  let shifted := (5 * dayOfYear + 2) / 153
  let month := if shifted < 10 then shifted + 3 else shifted - 9
  ⟨yearOfEra + era * 400 + (if month ≤ 2 then 1 else 0), month,
    dayOfYear - (153 * shifted + 2) / 5 + 1⟩

/-- The day count from the first of March of the year 0. -/
def toMarchDay (civil : Civil) : Nat :=
  let year := if civil.month ≤ 2 then civil.year - 1 else civil.year
  let yearOfEra := year % 400
  let shifted := if 2 < civil.month then civil.month - 3 else civil.month + 9
  let dayOfYear := (153 * shifted + 2) / 5 + civil.day - 1
  year / 400 * 146097 + (yearOfEra * 365 + yearOfEra / 4 - yearOfEra / 100 + dayOfYear)

/-- Year of four digits, month and day of two. -/
def text (civil : Civil) : String :=
  padded 4 civil.year ++ "-" ++ padded 2 civil.month ++ "-" ++ padded 2 civil.day

end Civil

namespace Date

/-- The date a number of days after 1970-01-01, if it lies in the years 1 to 9999. -/
def ofEpochDay? (epochDay : Int) : Option Date :=
  if inRange : -719162 ≤ epochDay ∧ epochDay ≤ 2932896 then some ⟨epochDay, inRange⟩ else none

/-- A day count is a date exactly in the years 1 to 9999. -/
theorem ofEpochDay?_eq_some_iff {epochDay : Int} {date : Date} :
    ofEpochDay? epochDay = some date ↔ date.epochDay = epochDay := by
  obtain ⟨day, range⟩ := date
  unfold ofEpochDay?
  split
  · simp [eq_comm]
  · simp only [reduceCtorEq, false_iff]
    rintro rfl
    contradiction

/-- Year, month and day of a date. -/
def civil (date : Date) : Civil := .ofMarchDay (date.epochDay + 719468).toNat

/-- The date of a year, month and day, if there is such a day. -/
def ofCivil? (civil : Civil) : Option Date :=
  if 1 ≤ civil.year ∧ 1 ≤ civil.month ∧ civil.month ≤ 12 ∧ 1 ≤ civil.day ∧
      civil.day ≤ Civil.monthLength civil.year civil.month then
    ofEpochDay? ((civil.toMarchDay : Int) - 719468)
  else none

/-- The text of a date. -/
def text (date : Date) : String := date.civil.text

end Date

namespace TimeOfDay

/-- The time of day of an hour, minute, second and microsecond, if there is one. -/
def ofParts? (hour minute second micro : Nat) : Option TimeOfDay :=
  if inRange : hour < 24 ∧ minute < 60 ∧ second < 60 ∧ micro < 1000000 then
    some ⟨((hour * 60 + minute) * 60 + second) * 1000000 + micro, by omega⟩
  else none

/-- Whole seconds from midnight. -/
def seconds (time : TimeOfDay) : Nat := time.micros / 1000000

/-- Microseconds within the second. -/
def micro (time : TimeOfDay) : Nat := time.micros % 1000000

/-- Hours, minutes and seconds; six digits of the second follow unless they are zero. -/
def text (time : TimeOfDay) : String :=
  padded 2 (time.seconds / 3600) ++ ":" ++ padded 2 (time.seconds / 60 % 60) ++ ":" ++
    padded 2 (time.seconds % 60) ++ (if time.micro = 0 then "" else "." ++ padded 6 time.micro)

end TimeOfDay

namespace Timestamp

/-- Microseconds of one day. -/
def microsPerDay : Int := 86400000000

/-- The timestamp of a microsecond count, if it lies in the years 1 to 9999. -/
def ofMicros? (micros : Int) : Option Timestamp :=
  if inRange : -62135596800000000 ≤ micros ∧ micros < 253402300800000000 then
    some ⟨micros, inRange⟩
  else none

/-- The timestamp whose whole seconds are those of `millis` and whose fraction is `nanos`, both
rounded down. -/
def ofMillisNanos? (millis nanos : Int) : Option Timestamp :=
  ofMicros? (millis.fdiv 1000 * 1000000 + nanos.fdiv 1000)

/-- The first moment of a date. -/
def midnight (date : Date) : Timestamp :=
  ⟨date.epochDay * 86400000000, by have := date.inRange; omega⟩

/-- The date of a timestamp. -/
def date (timestamp : Timestamp) : Date :=
  ⟨timestamp.micros.fdiv 86400000000, by
    have := timestamp.inRange
    rw [Int.fdiv_eq_ediv_of_nonneg _ (by omega)]
    omega⟩

/-- The time of day of a timestamp. -/
def time (timestamp : Timestamp) : TimeOfDay :=
  ⟨(timestamp.micros.fmod 86400000000).toNat, by
    rw [Int.fmod_eq_emod_of_nonneg _ (by omega)]
    omega⟩

/-- The timestamp of a date and a time of day. -/
def ofDateTime (date : Date) (time : TimeOfDay) : Timestamp :=
  ⟨date.epochDay * 86400000000 + time.micros, by
    have := date.inRange
    have := time.inRange
    omega⟩

/-- The text of a timestamp: date, the letter T, time of day. -/
def text (timestamp : Timestamp) : String := timestamp.date.text ++ "T" ++ timestamp.time.text

/-- The date of a midnight is the date itself. -/
@[simp] theorem date_midnight (day : Date) : (midnight day).date = day := by
  obtain ⟨epochDay, range⟩ := day
  simp only [midnight, date, Date.mk.injEq]
  rw [Int.fdiv_eq_ediv_of_nonneg _ (by omega)]
  omega

end Timestamp

end OrcRows
