import OrcRows.Proofs.Number.Rounded
import OrcRows.Proofs.Number.Shortest

/-!
# The decimals of a number of digits around a ratio

Around a ratio the decimals of some number of digits form a grid. Rounding to that many digits goes
to a point of the grid that is as near as any decimal with no more digits, and on either side no
such decimal lies between the ratio and the neighbouring point.
-/

namespace OrcRows

open Rounding

namespace Scientific

variable {num den count : Nat} {decimal : Scientific}

/-- The exponent of the last of some digits of a ratio. -/
def lastPlace (num den count : Nat) : Int := decade num den - count + 1

/-- The greatest point at or below a ratio, counted in units of the last place. -/
def unitsBelow (num den : Nat) (exponent : Int) : Nat :=
  (scaleDown 10 num den exponent).1 / (scaleDown 10 num den exponent).2

/-- A ratio lies between the points next to it. -/
theorem unitsBelow_spec (hd : 0 < den) (num : Nat) (exponent : Int) :
    (unitsBelow num den exponent : ℚ) * 10 ^ exponent ≤ num / den ∧
      (num : ℚ) / den < (unitsBelow num den exponent + 1) * 10 ^ exponent := by
  have unit : (0 : ℚ) < 10 ^ exponent := by positivity
  have hpos := scaleDown_pos (show 0 < 10 by norm_num) hd num exponent
  have hpos' : (0 : ℚ) < (scaleDown 10 num den exponent).2 := by exact_mod_cast hpos
  have value := quotient_scaleDown (show 0 < 10 by norm_num) hd num exponent
  rw [Nat.cast_ofNat] at value
  rw [← le_div_iff₀ unit, ← div_lt_iff₀ unit, ← value, quotient, le_div_iff₀ hpos',
    div_lt_iff₀ hpos', unitsBelow]
  constructor
  · exact_mod_cast Nat.div_mul_le_self _ _
  · exact_mod_cast Nat.lt_mul_of_div_lt (Nat.lt_succ_self _) hpos

/-- A ratio rounded to some digits is a whole number of units of the last place. -/
theorem value_ofRatio (hd : 0 < den) :
    (ofRatio num den count).value =
      nearestNat (num / den / 10 ^ lastPlace num den count) * 10 ^ lastPlace num den count := by
  have whole := halfEven_eq_nearestNat
    (scaleDown_pos (show 0 < 10 by norm_num) hd num (lastPlace num den count))
  rw [quotient_scaleDown (by norm_num) hd, Nat.cast_ofNat] at whole
  rw [← whole]
  rfl

/-- The power of ten of the decade is a whole number of units of the last place. -/
theorem pow_decade (some : 1 ≤ count) :
    (10 : ℚ) ^ decade num den = (10 ^ (count - 1) : Nat) * 10 ^ lastPlace num den count := by
  have split : decade num den = (count - 1 : Nat) + lastPlace num den count := by
    rw [lastPlace]
    omega
  conv_lhs => rw [split]
  rw [zpow_add₀ (by norm_num), zpow_natCast]
  norm_cast

/-- A decimal of few digits is a whole number of units of the last place, or lies below the
decade. -/
theorem units_or_below (few : decimal.digits < 10 ^ count) :
    (∃ units : Nat, decimal.value = units * 10 ^ lastPlace num den count) ∨
      decimal.value < 10 ^ decade num den := by
  rcases le_or_gt (lastPlace num den count) decimal.exponent with coarse | fine
  · left
    obtain ⟨shift, hshift⟩ := Int.le.dest coarse
    refine ⟨decimal.digits * 10 ^ shift, ?_⟩
    rw [value, ← hshift, zpow_add₀ (by norm_num), zpow_natCast]
    push_cast
    ring
  · right
    calc decimal.value < 10 ^ count * 10 ^ decimal.exponent := by
          rw [value]
          exact mul_lt_mul_of_pos_right (by exact_mod_cast few) (by positivity)
      _ ≤ 10 ^ (count : Int) * 10 ^ (lastPlace num den count - 1) := by
          rw [zpow_natCast]
          gcongr
          · norm_num
          · omega
      _ = 10 ^ decade num den := by
          rw [← zpow_add₀ (by norm_num), lastPlace]
          congr 1
          ring

/-- No decimal of few digits is nearer to a ratio than the ratio rounded to that many digits. -/
theorem abs_value_ofRatio_sub_le_of_lt (hn : 0 < num) (hd : 0 < den) (some : 1 ≤ count)
    (few : decimal.digits < 10 ^ count) :
    |(ofRatio num den count).value - num / den| ≤ |decimal.value - num / den| := by
  have unit : (0 : ℚ) < 10 ^ lastPlace num den count := by positivity
  have least : (0 : ℚ) ≤ num / den := by positivity
  rw [value_ofRatio hd]
  rcases units_or_below few with ⟨units, whole⟩ | below
  · rw [whole]
    exact abs_nearestNat_mul_sub_le unit least units
  · have bottom := (decade_spec hn hd).1
    calc _ ≤ |(10 ^ (count - 1) : Nat) * 10 ^ lastPlace num den count - (num : ℚ) / den| :=
          abs_nearestNat_mul_sub_le unit least _
      _ = num / den - 10 ^ decade num den := by
          rw [← pow_decade some, abs_sub_comm, abs_of_nonneg (by linarith)]
      _ ≤ num / den - decimal.value := by linarith
      _ ≤ |decimal.value - num / den| := by
          rw [abs_sub_comm]
          exact le_abs_self _

/-- A decimal of few digits does not lie between a ratio and the points next to it. -/
theorem le_below_or_above_le (hn : 0 < num) (hd : 0 < den) (some : 1 ≤ count)
    (few : decimal.digits < 10 ^ count) :
    decimal.value ≤
        unitsBelow num den (lastPlace num den count) * 10 ^ lastPlace num den count ∨
      (unitsBelow num den (lastPlace num den count) + 1) * 10 ^ lastPlace num den count ≤
        decimal.value := by
  obtain ⟨least, most⟩ := unitsBelow_spec hd num (lastPlace num den count)
  have unit : (0 : ℚ) < 10 ^ lastPlace num den count := by positivity
  rcases units_or_below few with ⟨units, whole⟩ | below
  · rw [whole]
    rcases le_or_gt units (unitsBelow num den (lastPlace num den count)) with fewer | more
    · left
      gcongr
    · right
      gcongr
      exact_mod_cast more
  · left
    have bottom := (decade_spec hn hd).1.trans_lt most
    rw [pow_decade some] at bottom below
    have reached : 10 ^ (count - 1) ≤ unitsBelow num den (lastPlace num den count) := by
      have := lt_of_mul_lt_mul_right bottom unit.le
      exact_mod_cast Nat.lt_succ_iff.mp (by exact_mod_cast this)
    refine below.le.trans ?_
    gcongr

end Scientific

end OrcRows
