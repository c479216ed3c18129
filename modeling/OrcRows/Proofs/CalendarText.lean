import OrcRows.Proofs.Calendar
import OrcRows.Proofs.Number.DecimalReading

/-!
# Texts of dates and moments

The parts of a date and of a time of day have fixed widths, so the parts of two equal texts are
equal one by one. Different dates have different texts, and so have different moments, although the
fraction of a second is left out if it is zero.
-/

namespace OrcRows

/-- The first parts of two equal texts are equal if they are as long as each other, and so are the
rests. -/
theorem text_append_inj {first rest first' rest' : String} (same : first ++ rest = first' ++ rest')
    (wide : first.length = first'.length) : first = first' ∧ rest = rest' := by
  have lists : first.toList ++ rest.toList = first'.toList ++ rest'.toList := by
    rw [← String.toList_append, ← String.toList_append, same]
  obtain ⟨head, tail⟩ := List.append_inj lists
    (by rw [String.length_toList, String.length_toList, wide])
  exact ⟨String.toList_injective head, String.toList_injective tail⟩

section Padded

variable {width first second : Nat}

/-- A natural that fits a positive width is written with that width. -/
theorem length_padded (hw : 0 < width) (fits : first < 10 ^ width) :
    (padded width first).length = width := by
  have few := (Nat.length_toDigits_le_iff (by norm_num) hw).mpr fits
  rw [padded, String.length_ofList, List.length_append, List.length_replicate]
  omega

/-- Different naturals have different texts of one width. -/
theorem padded_inj (same : padded width first = padded width second) : first = second := by
  have lists := String.ofList_injective same
  have values := congrArg Decimal.digitsValue lists
  rwa [Decimal.digitsValue_zeros, Decimal.digitsValue_zeros, ← Rounding.digits, ← Rounding.digits,
    Decimal.digitsValue_digits, Decimal.digitsValue_digits] at values

/-- A natural of a width is told from others in front of a text. -/
theorem padded_append_inj {rest rest' : String} (hw : 0 < width) (fits : first < 10 ^ width)
    (fits' : second < 10 ^ width)
    (same : padded width first ++ rest = padded width second ++ rest') :
    first = second ∧ rest = rest' := by
  obtain ⟨head, tail⟩ :=
    text_append_inj same (by rw [length_padded hw fits, length_padded hw fits'])
  exact ⟨padded_inj head, tail⟩

end Padded

namespace Civil

/-- The day of a month has at most two digits. -/
theorem IsDay.day_lt {civil : Civil} (h : civil.IsDay) : civil.day < 10 ^ 2 := by
  have last := h.day_le
  rw [monthLength] at last
  split at last <;> split at last <;> omega

/-- The text of a day is as long as that of any other day of the years up to 9999. -/
theorem length_text {civil : Civil} (h : civil.IsDay) (hy : civil.year ≤ 9999) :
    civil.text.length = 10 := by
  rw [text, String.length_append, String.length_append, String.length_append,
    String.length_append, length_padded (by norm_num) (show civil.year < 10 ^ 4 by omega),
    length_padded (by norm_num) (show civil.month < 10 ^ 2 from h.month_le.trans_lt (by norm_num)),
    length_padded (by norm_num) h.day_lt]
  rfl

/-- Different days of the years up to 9999 have different texts. -/
theorem text_inj {civil other : Civil} (h : civil.IsDay) (hy : civil.year ≤ 9999)
    (h' : other.IsDay) (hy' : other.year ≤ 9999) (same : civil.text = other.text) :
    civil = other := by
  have few : civil.year < 10 ^ 4 := by omega
  have few' : other.year < 10 ^ 4 := by omega
  have month : civil.month < 10 ^ 2 := h.month_le.trans_lt (by norm_num)
  have month' : other.month < 10 ^ 2 := h'.month_le.trans_lt (by norm_num)
  rw [text, text] at same
  simp only [String.append_assoc] at same
  obtain ⟨years, same⟩ := padded_append_inj (by norm_num) few few' same
  obtain ⟨months, same⟩ :=
    padded_append_inj (by norm_num) month month' ((String.append_right_inj "-").mp same)
  have days := padded_inj ((String.append_right_inj "-").mp same)
  cases civil
  cases other
  cases years
  cases months
  cases days
  rfl

end Civil

namespace Date

/-- The year of a date is at most 9999. -/
theorem year_le (date : Date) : date.civil.year ≤ 9999 := by
  obtain ⟨isDay, count⟩ := date.civil_isDay
  rw [isDay.year_le_iff, count]
  exact date.inRange.2

/-- The text of a date has ten characters. -/
theorem length_text (date : Date) : date.text.length = 10 :=
  Civil.length_text date.civil_isDay.1 date.year_le

/-- Different dates have different texts. -/
theorem text_inj {first second : Date} (same : first.text = second.text) : first = second := by
  obtain ⟨isDay, count⟩ := first.civil_isDay
  obtain ⟨isDay', count'⟩ := second.civil_isDay
  have civil := Civil.text_inj isDay first.year_le isDay' second.year_le same
  have number : first.epochDay = second.epochDay := by rw [← count, civil, count']
  cases first
  cases second
  cases number
  rfl

end Date

namespace TimeOfDay

/-- Hours, minutes and seconds have two digits, microseconds have six. -/
theorem parts_lt (time : TimeOfDay) :
    time.seconds / 3600 < 10 ^ 2 ∧ time.seconds / 60 % 60 < 10 ^ 2 ∧ time.seconds % 60 < 10 ^ 2 ∧
      time.micro < 10 ^ 6 := by
  have range := time.inRange
  simp only [seconds, micro]
  omega

/-- A time of day is the time of its parts. -/
theorem ext_parts {time other : TimeOfDay} (hour : time.seconds / 3600 = other.seconds / 3600)
    (minute : time.seconds / 60 % 60 = other.seconds / 60 % 60)
    (second : time.seconds % 60 = other.seconds % 60) (fraction : time.micro = other.micro) :
    time = other := by
  obtain ⟨micros, _⟩ := time
  obtain ⟨micros', _⟩ := other
  simp only [seconds, micro] at hour minute second fraction
  rw [TimeOfDay.mk.injEq]
  omega

/-- A fraction of a second that is written has a text. -/
theorem fraction_ne_empty (micro : Nat) : "." ++ padded 6 micro ≠ "" := by
  intro none
  have length := congrArg String.length none
  rw [String.length_append] at length
  exact absurd length (by simp +decide)

/-- Different times of day have different texts. -/
theorem text_inj {time other : TimeOfDay} (same : time.text = other.text) : time = other := by
  obtain ⟨hour, minute, second, fraction⟩ := time.parts_lt
  obtain ⟨hour', minute', second', fraction'⟩ := other.parts_lt
  simp only [text, String.append_assoc] at same
  obtain ⟨hours, same⟩ := padded_append_inj (by norm_num) hour hour' same
  obtain ⟨minutes, same⟩ :=
    padded_append_inj (by norm_num) minute minute' ((String.append_right_inj ":").mp same)
  obtain ⟨seconds, same⟩ :=
    padded_append_inj (by norm_num) second second' ((String.append_right_inj ":").mp same)
  apply ext_parts hours minutes seconds
  -- a fraction that is left out is zero
  split at same
  case isTrue zero =>
    split at same
    case isTrue zero' => rw [zero, zero']
    case isFalse => exact absurd same.symm (fraction_ne_empty _)
  case isFalse =>
    split at same
    case isTrue => exact absurd same (fraction_ne_empty _)
    case isFalse => exact padded_inj ((String.append_right_inj ".").mp same)

end TimeOfDay

namespace Timestamp

/-- A timestamp is the moment of its date and its time of day. -/
theorem ext_parts {first second : Timestamp} (date : first.date = second.date)
    (time : first.time = second.time) : first = second := by
  obtain ⟨micros, _⟩ := first
  obtain ⟨micros', _⟩ := second
  simp only [Timestamp.date, Timestamp.time, Date.mk.injEq, TimeOfDay.mk.injEq] at date time
  rw [Int.fdiv_eq_ediv_of_nonneg _ (by norm_num),
    Int.fdiv_eq_ediv_of_nonneg _ (by norm_num)] at date
  rw [Int.fmod_eq_emod_of_nonneg _ (by norm_num),
    Int.fmod_eq_emod_of_nonneg _ (by norm_num)] at time
  rw [Timestamp.mk.injEq]
  omega

/-- Different moments have different texts. -/
theorem text_inj {first second : Timestamp} (same : first.text = second.text) :
    first = second := by
  rw [text, text, String.append_assoc, String.append_assoc] at same
  obtain ⟨dates, times⟩ := text_append_inj same (by rw [Date.length_text, Date.length_text])
  have parts := (String.append_right_inj "T").mp times
  exact ext_parts (Date.text_inj dates) (TimeOfDay.text_inj parts)

/-- Different dates begin at different moments. -/
theorem midnight_inj {first second : Date} (same : midnight first = midnight second) :
    first = second := by
  rw [← date_midnight first, same, date_midnight]

end Timestamp

end OrcRows
