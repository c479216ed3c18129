import OrcRows.Proofs.Number.RoundedData
import OrcRows.Proofs.Number.SingleText

/-!
# Decimals read as 32-bit numbers

A decimal is read as a 32-bit number by way of a 64-bit one, so by rounding its number twice. Around
a 32-bit number that is no power of two the numbers that are read as it lie symmetrically, though
their range is that of two roundings: what is as near to it as one of them is another. Around a
power of two only monotony is left.
-/

namespace OrcRows

open Rounding

namespace BinaryFormat

/-- A rational rounded to 64 bits and then to 32 bits. -/
def reread (value : ℚ) : ℚ := single.round (double.round value)

variable {value other number : ℚ}

/-- Rounding twice is monotone. -/
theorem reread_mono {lower upper : ℚ} (h : 0 ≤ lower) (le : lower ≤ upper) :
    reread lower ≤ reread upper :=
  round_mono (by decide) (round_nonneg double lower) (round_mono (by decide) h le)

/-- The 64-bit format represents what the 32-bit format represents. -/
theorem represents_double (h : single.Represents number) : double.Represents number := by
  obtain ⟨parts, fits, least, same⟩ := h
  exact ⟨parts, fits.trans (by decide), le_trans (by decide) least, same⟩

/-- A 32-bit number is left alone by rounding twice. -/
theorem reread_of_represents (h : single.Represents number) : reread number = number := by
  rw [reread, round_of_represents (by decide) (represents_double h),
    round_of_represents (by decide) h]

/-- What is rounded to something between two numbers of a format lies between them. -/
theorem between_of_round {format : BinaryFormat} (hp : 2 ≤ format.precision) {lower upper : ℚ}
    (hl : format.Represents lower) (hu : format.Represents upper) (h : 0 ≤ value)
    (above : lower < format.round value) (below : format.round value < upper) :
    lower < value ∧ value < upper := by
  constructor
  · by_contra least
    have := round_mono hp h (not_lt.mp least)
    rw [round_of_represents hp hl] at this
    exact absurd above (not_lt.mpr this)
  · by_contra most
    have := round_mono hp hu.nonneg (not_lt.mp most)
    rw [round_of_represents hp hu] at this
    exact absurd below (not_lt.mpr this)

section Binade

variable {leading : Int}

/-- A number of a format above the power of two of its binade is a unit above it at least, and a
unit below the next one. -/
theorem unit_le_of_represents {format : BinaryFormat} (hp : 2 ≤ format.precision)
    (held : format.Represents number) (bottom : format.minExponent ≤ leading)
    (above : (2 : ℚ) ^ leading < number) (below : number < 2 ^ (leading + 1)) :
    ∃ units : Nat, number = units * 2 ^ format.unitOf leading ∧
      (2 : ℚ) ^ leading + 2 ^ format.unitOf leading ≤ number ∧
      number + 2 ^ format.unitOf leading ≤ 2 ^ (leading + 1) := by
  have small : format.unitOf leading ≤ leading := by
    rw [unitOf]
    omega
  have whole := (round_of_leading hp above.le below).1
  rw [round_of_represents hp held] at whole
  obtain ⟨least, hleast⟩ : ∃ units : Nat,
      valueOf (1, leading) = units * 2 ^ format.unitOf leading :=
    valueOf_of_le small
  obtain ⟨most, hmost⟩ : ∃ units : Nat,
      valueOf (1, leading + 1) = units * 2 ^ format.unitOf leading :=
    valueOf_of_le (small.trans (by dsimp only; omega))
  rw [valueOf, Nat.cast_one, one_mul] at hleast hmost
  dsimp only at hleast hmost
  set units := nearestNat (number / 2 ^ format.unitOf leading)
  have unit : (0 : ℚ) < 2 ^ format.unitOf leading := by positivity
  rw [hleast, hmost]
  rw [hleast, whole] at above
  rw [hmost, whole] at below
  have more : least + 1 ≤ units := by exact_mod_cast lt_of_mul_lt_mul_right above unit.le
  have fewer : units + 1 ≤ most := by exact_mod_cast lt_of_mul_lt_mul_right below unit.le
  refine ⟨units, whole, ?_, ?_⟩
  · calc (least : ℚ) * 2 ^ format.unitOf leading + 2 ^ format.unitOf leading =
          (least + 1 : Nat) * 2 ^ format.unitOf leading := by push_cast; ring
      _ ≤ units * 2 ^ format.unitOf leading := by gcongr
      _ = number := whole.symm
  · calc number + 2 ^ format.unitOf leading = (units + 1 : Nat) * 2 ^ format.unitOf leading := by
          rw [whole]
          push_cast
          ring
      _ ≤ most * 2 ^ format.unitOf leading := by gcongr

/-- Distances from a whole number of units, counted in units. -/
theorem abs_div_sub_le_iff {unit : ℚ} (positive : 0 < unit) {first second : ℚ} (units : Nat) :
    |first / unit - units| ≤ |second / unit - units| ↔
      |first - units * unit| ≤ |second - units * unit| := by
  have scale (value : ℚ) : |value - units * unit| = |value / unit - units| * unit := by
    rw [← abs_of_pos positive, ← abs_mul, abs_of_pos positive, sub_mul,
      div_mul_cancel₀ _ positive.ne']
  rw [scale, scale, mul_le_mul_iff_of_pos_right positive]

/-- Rounding to a whole number of units moves a rational by half a unit at most. -/
theorem abs_sub_nearestNat_mul_le {unit : ℚ} (positive : 0 < unit) (h : 0 ≤ value) :
    |value - nearestNat (value / unit) * unit| ≤ unit / 2 := by
  have near := abs_sub_nearestNat_le (show 0 ≤ value / unit by positivity)
  calc |value - nearestNat (value / unit) * unit|
      = |value / unit - nearestNat (value / unit)| * unit := by
        rw [← abs_of_pos positive, ← abs_mul, abs_of_pos positive, sub_mul,
          div_mul_cancel₀ _ positive.ne']
    _ ≤ 1 / 2 * unit := mul_le_mul_of_nonneg_right near positive.le
    _ = unit / 2 := by ring

/-- A unit of the 32-bit format is an even number of units of the 64-bit one. -/
theorem exists_half_unit (leading : Int) :
    ∃ half : Nat, 0 < half ∧
      (2 : ℚ) ^ single.unitOf leading = (2 * half : Nat) * 2 ^ double.unitOf leading := by
  obtain ⟨shift, hshift⟩ : ∃ shift : Nat,
      single.unitOf leading = double.unitOf leading + (shift + 1 : Nat) := by
    refine ⟨(single.unitOf leading - double.unitOf leading - 1).toNat, ?_⟩
    simp only [unitOf, single, double]
    omega
  refine ⟨2 ^ shift, by positivity, ?_⟩
  rw [hshift, zpow_add₀ (by norm_num), zpow_natCast]
  push_cast
  ring

/-- What is read as a 32-bit number inside a binade lies in the binade with its 64-bit number, which
is half a unit from the 32-bit one at most. -/
theorem near_of_reread (bottom : -149 ≤ leading) (above : (2 : ℚ) ^ leading < number)
    (below : number < 2 ^ (leading + 1)) (ho : 0 ≤ other) (back : reread other = number) :
    (2 ^ leading < other ∧ other < 2 ^ (leading + 1)) ∧
      nearestNat (double.round other / 2 ^ single.unitOf leading) * 2 ^ single.unitOf leading =
        number ∧
      |double.round other - number| ≤ 2 ^ single.unitOf leading / 2 := by
  have low : single.Represents (2 ^ leading) := represents_pow (by decide) bottom
  have high : single.Represents (2 ^ (leading + 1)) :=
    represents_pow (by decide) (le_trans bottom (by omega))
  obtain ⟨wideLow, wideHigh⟩ := between_of_round (by decide) low high (round_nonneg double other)
    (above.trans_eq back.symm) (back.trans_lt below)
  have inside := between_of_round (by decide) (represents_double low) (represents_double high) ho
    wideLow wideHigh
  have whole := (round_of_leading (by decide) wideLow.le wideHigh).1.symm.trans back
  refine ⟨inside, whole, ?_⟩
  rw [← whole]
  exact abs_sub_nearestNat_mul_le (by positivity) (round_nonneg double other)

/-- Rounding inside a binade keeps which of two rationals is as near as the other to an even number
of units. -/
theorem abs_round_sub_units_le {format : BinaryFormat} (hp : 2 ≤ format.precision) {units : Nat}
    (even : units % 2 = 0) (low : (2 : ℚ) ^ leading ≤ value) (high : value < 2 ^ (leading + 1))
    (low' : (2 : ℚ) ^ leading ≤ other) (high' : other < 2 ^ (leading + 1))
    (near : |value - units * 2 ^ format.unitOf leading| ≤
      |other - units * 2 ^ format.unitOf leading|) :
    |format.round value - units * 2 ^ format.unitOf leading| ≤
      |format.round other - units * 2 ^ format.unitOf leading| := by
  have bottom : (0 : ℚ) < 2 ^ leading := by positivity
  have unit : (0 : ℚ) < 2 ^ format.unitOf leading := by positivity
  have counted := abs_nearestNat_sub_le (div_nonneg (bottom.le.trans low) unit.le)
    (div_nonneg (bottom.le.trans low') unit.le) even ((abs_div_sub_le_iff unit units).mpr near)
  rw [(round_of_leading hp low high).1, (round_of_leading hp low' high').1, ← sub_mul, ← sub_mul,
    abs_mul, abs_mul]
  exact mul_le_mul_of_nonneg_right counted (abs_nonneg _)

/-- What is as near to a 32-bit number inside its binade as something that is read as that number is
read as that number too. -/
theorem reread_of_near (held : single.Represents number) (bottom : -149 ≤ leading)
    (above : (2 : ℚ) ^ leading < number) (below : number < 2 ^ (leading + 1)) (ho : 0 ≤ other)
    (near : |value - number| ≤ |other - number|) (back : reread other = number) :
    reread value = number := by
  obtain ⟨units, hunits, hbottom, htop⟩ :=
    unit_le_of_represents (by decide) held bottom above below
  obtain ⟨half, some, ratio⟩ := exists_half_unit leading
  obtain ⟨⟨otherLow, otherHigh⟩, whole, wideNear⟩ := near_of_reread bottom above below ho back
  set fine : ℚ := 2 ^ double.unitOf leading with hfine
  set coarse : ℚ := 2 ^ single.unitOf leading with hcoarse
  set wide := double.round other with hwide
  have finePos : 0 < fine := by positivity
  have coarsePos : 0 < coarse := by positivity
  have halves : fine ≤ coarse / 2 := by
    have : (1 : ℚ) * fine ≤ half * fine := by
      gcongr
      exact_mod_cast some
    rw [ratio]
    push_cast
    linarith
  have fineUnits : number = (2 * (units * half) : Nat) * fine := by
    rw [hunits, ratio]
    push_cast
    ring
  have backUnits : nearestNat (wide / coarse) = units := by
    exact_mod_cast mul_right_cancel₀ coarsePos.ne' (whole.trans hunits)
  -- half a unit of each format is less than a 32-bit unit, so the value lies in the binade
  have otherNear : |other - wide| ≤ fine / 2 := by
    rw [hwide, (round_of_leading (by decide) otherLow.le otherHigh).1]
    exact abs_sub_nearestNat_mul_le finePos ho
  have valueNear : |value - number| < coarse := by
    have := abs_sub_le other wide number
    linarith
  have valueLow : 2 ^ leading < value := by linarith [(abs_lt.mp valueNear).1]
  have valueHigh : value < 2 ^ (leading + 1) := by linarith [(abs_lt.mp valueNear).2]
  -- the fine rounding is symmetric about the number, and the coarse one is too
  have roundNear : |double.round value - number| ≤ |wide - number| := by
    rw [fineUnits] at near ⊢
    exact abs_round_sub_units_le (by decide) (Nat.mul_mod_right 2 _) valueLow.le valueHigh
      otherLow.le otherHigh near
  have roundLow : 2 ^ leading < double.round value := by
    linarith [(abs_le.mp (roundNear.trans wideNear)).1]
  have roundHigh : double.round value < 2 ^ (leading + 1) := by
    linarith [(abs_le.mp (roundNear.trans wideNear)).2]
  have roundUnits := nearestNat_eq_of_near
    (show 0 ≤ double.round value / coarse from div_nonneg (round_nonneg double value) coarsePos.le)
    (show 0 ≤ wide / coarse from div_nonneg (round_nonneg double other) coarsePos.le)
    ((abs_div_sub_le_iff coarsePos units).mpr (by rw [← hunits]; exact roundNear)) backUnits
  rw [reread, (round_of_leading (by decide) roundLow.le roundHigh).1, roundUnits, hunits]

end Binade

end BinaryFormat

namespace Binary64

open BinaryFormat

variable {negative other : Bool} {m : Nat} {q : Int} {canonical : IsCanonical m q}

/-- Finite data are equal if their signs and their numbers are. -/
theorem finite_inj {m' : Nat} {q' : Int} {canonical' : IsCanonical m' q'} :
    Binary64.finite other m' q' canonical' = .finite negative m q canonical ↔
      other = negative ∧ valueOf (m', q') = valueOf (m, q) := by
  constructor
  · intro same
    cases same
    exact ⟨rfl, rfl⟩
  · rintro ⟨rfl, same⟩
    have parts := ((isCanonical_iff (m', q')).mp canonical').1.eq_of_value (by decide)
      ((isCanonical_iff (m, q)).mp canonical).1 same
    cases parts
    rfl

/-- A 32-bit number lies below the limit of its format. -/
theorem IsSingle.lt_limit (single : (Binary64.finite negative m q canonical).IsSingle) :
    valueOf (m, q) < BinaryFormat.single.limit := by
  rcases Nat.eq_zero_or_pos m with rfl | positive
  · rw [valueOf, Nat.cast_zero, zero_mul, limit]
    positivity
  · exact (IsSingle.bounds single positive).2

/-- A 32-bit number is a number of the 32-bit format. -/
theorem IsSingle.represents (single : (Binary64.finite negative m q canonical).IsSingle) :
    BinaryFormat.single.Represents (valueOf (m, q)) := by
  obtain ⟨k, e, fits, least, -, value⟩ := single
  exact ⟨(k, e), fits, least, value⟩

/-- A decimal is read as a 32-bit number if it has the sign of the number and rounding it twice
makes the number of it. -/
theorem toSingle_toBinary64_iff (single : (Binary64.finite negative m q canonical).IsSingle)
    (decimal : Scientific) :
    (decimal.toBinary64 other).toSingle = .finite negative m q canonical ↔
      other = negative ∧ reread decimal.value = valueOf (m, q) := by
  have hd := ratioOf_pos (show 0 < 10 by norm_num) decimal.digits decimal.exponent
  have value : ((ratioOf 10 decimal.digits decimal.exponent).1 : ℚ) /
      (ratioOf 10 decimal.digits decimal.exponent).2 = decimal.value := by
    have := quotient_ratioOf 10 decimal.digits decimal.exponent
    rwa [quotient, Nat.cast_ofNat] at this
  have below := IsSingle.lt_limit single
  rw [Scientific.toBinary64, ofScientific]
  rcases lt_or_ge (double.round decimal.value) double.limit with inside | beyond
  · obtain ⟨m', q', canonical', read, wide⟩ := exists_ofRatio other hd (value.symm ▸ inside)
    rw [value] at wide
    rw [read, reread, ← wide]
    rcases lt_or_ge (BinaryFormat.single.round (valueOf (m', q'))) BinaryFormat.single.limit
      with inside' | beyond'
    · obtain ⟨m'', q'', canonical'', narrowed, narrow⟩ := exists_toSingle other canonical' inside'
      rw [narrowed, finite_inj, narrow]
    · rw [toSingle_of_limit_le beyond']
      simp only [reduceCtorEq, false_iff, not_and]
      intro _ same
      exact absurd below (not_lt.mpr (same ▸ beyond'))
  · rw [ofRatio_of_limit_le other hd (value.symm ▸ beyond)]
    simp only [toSingle, narrow, reduceCtorEq, false_iff, not_and]
    intro _ same
    -- what is beyond the 64-bit format is beyond the 32-bit format all the more
    have power : BinaryFormat.single.Represents BinaryFormat.single.limit :=
      represents_pow (by decide) (by decide)
    have smaller : BinaryFormat.single.limit ≤ double.limit :=
      zpow_le_zpow_right₀ (by norm_num) (by decide)
    have reached : BinaryFormat.single.round BinaryFormat.single.limit ≤
        BinaryFormat.single.round (double.round decimal.value) :=
      round_mono (by decide) power.nonneg (smaller.trans beyond)
    rw [round_of_represents (by decide) power] at reached
    exact absurd below (not_lt.mpr (same ▸ reached))

end Binary64

end OrcRows
