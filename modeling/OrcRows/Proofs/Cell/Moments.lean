import OrcRows.Proofs.Calendar
import OrcRows.Proofs.Table.LeafColumn

/-!
# Cells of dates and timestamps are exact

A column counts the time since the start of 1970-01-01 in days or in a unit of time, and any count
may be stored. A count of time is split into milliseconds and nanoseconds of which nothing is lost.
The cell is the day, or the microsecond rounded down, that the count leads to; where that is not in
the years 1 to 9999, it is reported with the count.
-/

namespace OrcRows

namespace Timestamp

/-- A timestamp is the moment at its time of day on the day of its civil date. -/
theorem civil_epochDay_add (timestamp : Timestamp) :
    timestamp.date.civil.epochDay * microsPerDay + timestamp.time.micros = timestamp.micros := by
  rw [timestamp.date.civil_isDay.2]
  simp only [date, time, microsPerDay]
  rw [Int.fdiv_eq_ediv_of_nonneg _ (by omega), Int.fmod_eq_emod_of_nonneg _ (by omega)]
  omega

/-- A number of microseconds from the start of 1970-01-01 on leads into the years 1 to 9999. -/
def InYears (micros : Int) : Prop := Civil.InYears (micros.fdiv microsPerDay)

/-- The microseconds of the years 1 to 9999 are those from the first moment of 0001-01-01 up to
the last of 9999-12-31. -/
theorem inYears_iff {micros : Int} :
    InYears micros ↔ -62135596800000000 ≤ micros ∧ micros < 253402300800000000 := by
  rw [InYears, Civil.inYears_iff, microsPerDay, Int.fdiv_eq_ediv_of_nonneg _ (by omega)]
  omega

end Timestamp

/-- The parts of a number of nanoseconds: the nanoseconds lie within the second, they and the whole
seconds of the milliseconds add up to it, and the milliseconds are those that have passed. -/
theorem splitNanos_exact (nanos : Int) :
    (0 ≤ (splitNanos nanos).2 ∧ (splitNanos nanos).2 < 10 ^ 9) ∧
      (splitNanos nanos).1.fdiv 1000 * 10 ^ 9 + (splitNanos nanos).2 = nanos ∧
      (splitNanos nanos).1 = nanos.fdiv 1000000 := by
  simp only [splitNanos]
  rw [Int.fdiv_eq_ediv_of_nonneg _ (by omega), Int.fdiv_eq_ediv_of_nonneg _ (by omega),
    Int.fdiv_eq_ediv_of_nonneg _ (by omega), Int.fdiv_eq_ediv_of_nonneg _ (by omega),
    Int.fmod_eq_emod_of_nonneg _ (by omega)]
  omega

/-- The parts of a number of nanoseconds lead to its microsecond. -/
theorem ofMillisNanos?_split (nanos : Int) :
    Timestamp.ofMillisNanos? (splitNanos nanos).1 (splitNanos nanos).2 =
      Timestamp.ofMicros? (nanos.fdiv 1000) := by
  have parts := splitNanos_exact nanos
  rw [Timestamp.ofMillisNanos?]
  congr 1
  rw [Int.fdiv_eq_ediv_of_nonneg _ (by omega)] at parts ⊢
  rw [Int.fdiv_eq_ediv_of_nonneg _ (by omega), Int.fdiv_eq_ediv_of_nonneg _ (by omega)]
  omega

namespace ColumnVector

/-- A reading of a number of days from 1970-01-01 on: the date with that number, to which so many
days lead from 1970-01-01, or from which they lead there, if it lies in the years 1 to 9999, and a
report of the number otherwise. -/
def IsDateOf (reading : Outcome Value) (days : Int) : Prop :=
  (Civil.InYears days → ∃ date : Date, reading = .ok (.date date) ∧
    date.civil.IsDay ∧ date.civil.epochDay = days ∧
    Civil.next^[(-days).toNat] date.civil = Civil.next^[days.toNat] ⟨1970, 1, 1⟩) ∧
  (¬ Civil.InYears days → reading = .error (.report .unsupportedDataType
    "date value out of range" [("category", .text "date"), ("value", .int days)]))

/-- A reading of a number of nanoseconds from the start of 1970-01-01 on, stored with its
milliseconds: the moment it leads to, rounded down to the microsecond, if that lies in the years 1
to 9999, and a report of the milliseconds otherwise. The moment is the one counted in microseconds
and the one of its civil date and time of day. -/
def IsTimestampOf (reading : Outcome Value) (nanos millis : Int) : Prop :=
  (Timestamp.InYears (nanos.fdiv 1000) → ∃ timestamp : Timestamp,
    reading = .ok (.timestamp timestamp) ∧ timestamp.micros = nanos.fdiv 1000 ∧
    timestamp.date.civil.IsDay ∧ timestamp.date.civil.epochDay * Timestamp.microsPerDay +
      timestamp.time.micros = nanos.fdiv 1000) ∧
  (¬ Timestamp.InYears (nanos.fdiv 1000) → reading = .error (.report .unsupportedDataType
    "timestamp value out of range" [("category", .text "timestamp"), ("millis", .int millis)]))

/-- A cell of dates is the date its number of days leads to. -/
theorem cell_isDateOf {policy : TextPolicy} {flags : RowFlags} {values : List Int}
    {row days : Int} {unified : Option UnifiedType}
    (given : ∀ type, unified = some type → type = .basic .date)
    (there : flags.nullAt row = .ok false)
    (found : Position.get? values (flags.index row) = some days) :
    IsDateOf ((leaf flags (.long values)).cell policy (.primitive .date) unified row) days := by
  have presented (date : Date) :
      (Value.date date).present policy .date unified = .ok (.date date) := by
    cases unified with
    | none => rfl
    | some type => rw [given type rfl]; rfl
  have cell : (leaf flags (.long values)).cell policy (.primitive .date) unified row =
      longValue .date days >>= fun value => value.present policy .date unified := by
    rw [cell_leaf there, leafCell]
    simp only [LeafCells.value, found]
    rfl
  rw [cell, longValue]
  constructor
  · intro inYears
    obtain ⟨date, hdate⟩ := Option.isSome_iff_exists.mp (Date.ofEpochDay?_isSome_iff.mpr inYears)
    rw [hdate]
    obtain ⟨isDay, number⟩ := date.civil_isDay
    rw [Date.ofEpochDay?_eq_some_iff.mp hdate] at number
    exact ⟨date, presented date, isDay, number, (isDay.epochDay_eq_iff days).mp number⟩
  · intro outside
    rw [Option.not_isSome_iff_eq_none.mp (mt Date.ofEpochDay?_isSome_iff.mp outside)]
    rfl

/-- A cell of timestamps is the moment that its milliseconds and nanoseconds lead to. -/
theorem cell_isTimestampOf {policy : TextPolicy} {flags : RowFlags} {millis nanos : List Int}
    {row count : Int} {unified : Option UnifiedType}
    (given : ∀ type, unified = some type → type = .basic .timestamp)
    (there : flags.nullAt row = .ok false)
    (milli : Position.get? millis (flags.index row) = some (splitNanos count).1)
    (nano : Position.get? nanos (flags.index row) = some (splitNanos count).2) :
    IsTimestampOf ((leaf flags (.timestamp millis nanos)).cell policy (.primitive .timestamp)
      unified row) count (splitNanos count).1 := by
  have presented (timestamp : Timestamp) :
      (Value.timestamp timestamp).present policy .timestamp unified =
        .ok (.timestamp timestamp) := by
    cases unified with
    | none => rfl
    | some type => rw [given type rfl]; rfl
  have untimed : unified.map (·.tag) ≠ some .time := by
    cases unified with
    | none => simp
    | some type => rw [given type rfl]; decide
  have cell : (leaf flags (.timestamp millis nanos)).cell policy (.primitive .timestamp)
      unified row = timestampValue .timestamp unified (splitNanos count).1 (splitNanos count).2 >>=
        fun value => value.present policy .timestamp unified := by
    rw [cell_leaf there, leafCell]
    simp only [LeafCells.value, milli, nano]
    rfl
  rw [cell, timestampValue, ofMillisNanos?_split]
  constructor
  · intro inYears
    rw [Timestamp.ofMicros?, dif_pos (Timestamp.inYears_iff.mp inYears)]
    simp only [reduceCtorEq, if_false, if_neg untimed]
    exact ⟨_, presented _, rfl, (Timestamp.date _).civil_isDay.1, Timestamp.civil_epochDay_add _⟩
  · intro outside
    rw [Timestamp.ofMicros?, dif_neg (mt Timestamp.inYears_iff.mpr outside)]
    rfl

/-- Dates and timestamps are exact over all counts. A date is read as the day its number leads to.
A count of a unit is split into milliseconds and nanoseconds that make up the same moment, and is
read as that moment rounded down to the microsecond. What is not in the years 1 to 9999 is
reported. -/
theorem cell_exact_in_years {policy : TextPolicy} :
    (∀ {flags : RowFlags} {values : List Int} {row days : Int} {unified : Option UnifiedType},
      (∀ type, unified = some type → type = .basic .date) → flags.nullAt row = .ok false →
      Position.get? values (flags.index row) = some days →
      IsDateOf ((leaf flags (.long values)).cell policy (.primitive .date) unified row) days) ∧
    ∀ {unit : TimeUnit} {counts : List (Option Int)} {row : Nat} {count : Int}
      {unified : Option UnifiedType},
      (∀ type, unified = some type → type = .basic .timestamp) →
      counts[row]? = some (some count) →
      ∃ (flags : RowFlags) (millis nanos : List Int) (milli nano : Int),
        ofColumn (.timestamp unit) (.integers counts) = .ok (leaf flags (.timestamp millis nanos)) ∧
        millis[row]? = some milli ∧ nanos[row]? = some nano ∧
        (0 ≤ nano ∧ nano < 10 ^ 9) ∧
        milli.fdiv 1000 * 10 ^ 9 + nano = count * unit.nanos ∧
        milli = (count * unit.nanos).fdiv 1000000 ∧
        IsTimestampOf ((leaf flags (.timestamp millis nanos)).cell policy (.primitive .timestamp)
          unified row) (count * unit.nanos) milli := by
  refine ⟨cell_isDateOf, ?_⟩
  intro unit counts row count unified given found
  have filledAt : (filled 0 counts)[row]? = some count := by
    rw [filled, List.getElem?_map, found]
    rfl
  have milli : ((filled 0 counts).map fun count => (splitNanos (count * unit.nanos)).1)[row]? =
      some (splitNanos (count * unit.nanos)).1 := by
    rw [List.getElem?_map, filledAt]
    rfl
  have nano : ((filled 0 counts).map fun count => (splitNanos (count * unit.nanos)).2)[row]? =
      some (splitNanos (count * unit.nanos)).2 := by
    rw [List.getElem?_map, filledAt]
    rfl
  have present : (counts.map (·.isSome))[row]? = some true := by
    rw [List.getElem?_map, found]
    rfl
  have there : (RowFlags.ofPresent (counts.map (·.isSome))).nullAt row = .ok false :=
    RowFlags.nullAt_ofPresent present
  obtain ⟨range, moment, whole⟩ := splitNanos_exact (count * unit.nanos)
  refine ⟨.ofPresent (counts.map (·.isSome)), _, _, _, _, ?_, milli, nano, range, moment, whole, ?_⟩
  · rw [ofColumn.eq_def]
    simp only [ofCells, LeafCells.ofCounts, List.map_map]
    rfl
  · apply cell_isTimestampOf given there
    · rw [RowFlags.index_ofPresent, Position.get?_ofNat, milli]
    · rw [RowFlags.index_ofPresent, Position.get?_ofNat, nano]

/-- The last day of the year 9999 in a repeating column, and the nanosecond before 1970 in the
second row of a column. -/
theorem cell_exact_in_years_edges :
    IsDateOf ((leaf ⟨[], true, true⟩ (.long [2932896])).cell .standard (.primitive .date)
      (some (.basic .date)) 7) 2932896 ∧
    ∃ (flags : RowFlags) (millis nanos : List Int) (milli nano : Int),
      ofColumn (.timestamp .nano) (.integers [none, some (-1)]) =
        .ok (leaf flags (.timestamp millis nanos)) ∧
      millis[1]? = some milli ∧ nanos[1]? = some nano ∧
      (0 ≤ nano ∧ nano < 10 ^ 9) ∧
      milli.fdiv 1000 * 10 ^ 9 + nano = -1 * TimeUnit.nano.nanos ∧
      milli = (-1 * TimeUnit.nano.nanos).fdiv 1000000 ∧
      IsTimestampOf ((leaf flags (.timestamp millis nanos)).cell .standard (.primitive .timestamp)
        (some (.basic .timestamp)) (1 : Nat)) (-1 * TimeUnit.nano.nanos) milli :=
  ⟨cell_exact_in_years.1 (fun _ same => (Option.some_inj.mp same).symm) rfl rfl,
    cell_exact_in_years.2 (fun _ same => (Option.some_inj.mp same).symm) rfl⟩

end ColumnVector

end OrcRows
