import OrcRows.Number.Decimal
import OrcRows.Cell.Presentation
import Mathlib.Algebra.Order.Field.Power
import Mathlib.Tactic.FieldSimp
import Mathlib.Tactic.Linarith
import Mathlib.Tactic.Positivity
import Mathlib.Tactic.Ring

/-!
# Decimals under wider decimal types

A decimal fits a precision and a scale if it is a whole number of units of the last place, fewer
than the precision allows. A type that is wider in both integer digits and scale holds such a
decimal exactly: presenting it there rounds nothing and never fails.
-/

namespace OrcRows

open Rounding

namespace Decimal

/-- The greatest precision under which nothing is out of bounds. -/
def greatestPrecision : Int := maxAdjusted

/-- A finite decimal that a precision and a scale hold: a number of units of the last place that has
no more digits than the precision. -/
def Fits (precision scale : Int) : Decimal → Prop
  | .finite _ coefficient exponent => ∃ units : Nat, units < 10 ^ precision.toNat ∧
      (coefficient : ℚ) * 10 ^ exponent = units * 10 ^ (-scale)
  | _ => False

/-- A natural below a power of ten has no more digits than the power. -/
theorem digitCount_le {n bound : Nat} (hb : 0 < bound) (h : n < 10 ^ bound) :
    digitCount n ≤ bound := by
  rcases Nat.eq_zero_or_pos n with rfl | hn
  · rw [digitCount, if_pos (by norm_num)]
    exact hb
  · have hlt := (pow_digitCount_le hn).trans_lt h
    have := (Nat.pow_lt_pow_iff_right (by norm_num : 1 < 10)).mp hlt
    omega

/-- A coefficient that has a natural counterpart at another exponent is shifted to it. -/
theorem shiftCoefficient_of_value {coefficient shifted : Nat} {exponent target : Int}
    (hv : (coefficient : ℚ) * 10 ^ exponent = shifted * 10 ^ target) :
    shiftCoefficient coefficient exponent target = shifted := by
  have ten : (10 : ℚ) ≠ 0 := by norm_num
  by_cases hle : target ≤ exponent
  · obtain ⟨places, hplaces⟩ := Int.le.dest hle
    rw [shiftCoefficient, if_pos hle, ← hplaces, add_sub_cancel_left, Int.toNat_natCast]
    rw [← hplaces, zpow_add₀ ten, zpow_natCast] at hv
    have hpow : (10 : ℚ) ^ target ≠ 0 := by positivity
    have hq : (coefficient : ℚ) * 10 ^ places = shifted := by
      apply mul_right_cancel₀ hpow
      rw [← hv]
      ring
    exact_mod_cast hq
  · obtain ⟨places, hplaces⟩ := Int.le.dest (not_le.mp hle).le
    rw [shiftCoefficient_of_lt _ (not_le.mp hle), ← hplaces, add_sub_cancel_left,
      Int.toNat_natCast]
    rw [← hplaces, zpow_add₀ ten, zpow_natCast] at hv
    have hpow : (10 : ℚ) ^ exponent ≠ 0 := by positivity
    have hq : (coefficient : ℚ) = shifted * 10 ^ places := by
      apply mul_right_cancel₀ hpow
      rw [hv]
      ring
    have hn : coefficient = shifted * 10 ^ places := by exact_mod_cast hq
    rw [hn, Nat.pow_eq, halfEven_mul_right _ (Nat.pow_pos (by norm_num))]

variable {precision scale precision' scale' : Int}

/-- A decimal that fits is a number of units of every finer last place, with no more digits than a
precision that leaves room for as many integer digits. -/
theorem Fits.widen {negative : Bool} {coefficient : Nat} {exponent : Int}
    (hf : Fits precision scale (.finite negative coefficient exponent)) (hs : scale ≤ precision)
    (hscale : scale ≤ scale') (hinteger : precision - scale ≤ precision' - scale')
    (hleast : 0 ≤ scale) :
    ∃ units : Nat, units < 10 ^ precision'.toNat ∧
      (coefficient : ℚ) * 10 ^ exponent = units * 10 ^ (-scale') := by
  obtain ⟨units, hunits, hv⟩ := hf
  obtain ⟨finer, hfiner⟩ := Int.le.dest hscale
  refine ⟨units * 10 ^ finer, ?_, ?_⟩
  · calc units * 10 ^ finer < 10 ^ precision.toNat * 10 ^ finer :=
          Nat.mul_lt_mul_of_pos_right hunits (Nat.pow_pos (by norm_num))
      _ = 10 ^ (precision.toNat + finer) := (Nat.pow_add ..).symm
      _ ≤ 10 ^ precision'.toNat := Nat.pow_le_pow_right (by norm_num) (by omega)
  · have hexp : -scale = finer + -scale' := by omega
    rw [hv, hexp, zpow_add₀ (by norm_num : (10 : ℚ) ≠ 0), zpow_natCast]
    push_cast
    ring

/-- Rescaling to a number of units that has room in the precision is exact. -/
theorem rescale?_of_units (limit : Nat) (negative : Bool) {coefficient units : Nat} {exponent : Int}
    (hv : (coefficient : ℚ) * 10 ^ exponent = units * 10 ^ (-scale'))
    (hunits : units < 10 ^ precision'.toNat) (hlow : 0 ≤ scale') (hhigh : scale' ≤ precision')
    (hbound : precision' ≤ greatestPrecision) (hlimit : precision' ≤ limit) :
    rescale? limit (-scale') (.finite negative coefficient exponent) =
      some (.finite negative units (-scale')) := by
  have hgreat : greatestPrecision = 999999 := rfl
  have hmax : maxAdjusted = 999999 := rfl
  have hshift := shiftCoefficient_of_value hv
  simp only [rescale?]
  rw [if_neg (by omega)]
  rcases Nat.eq_zero_or_pos coefficient with rfl | hc
  · have hzero : units = 0 := by
      have hpow : (10 : ℚ) ^ (-scale') ≠ 0 := by positivity
      have hq : (units : ℚ) = 0 := by
        apply mul_right_cancel₀ hpow
        rw [← hv]
        simp
      exact_mod_cast hq
    rw [if_pos rfl, hzero]
  · have hsome : 0 < precision'.toNat := by
      by_contra hzero
      rw [Nat.eq_zero_of_not_pos hzero, pow_zero] at hunits
      have hnone : units = 0 := by omega
      rw [hnone, Nat.cast_zero, zero_mul] at hv
      have hne : (coefficient : ℚ) * 10 ^ exponent ≠ 0 := by positivity
      exact hne hv
    have hdigits := digitCount_le hsome hunits
    have hleading : (digitCount coefficient : Int) + exponent + scale' ≤ precision' := by
      have hl : (10 : ℚ) ^ ((digitCount coefficient - 1 : Nat) + exponent) ≤
          (coefficient : ℚ) * 10 ^ exponent := by
        rw [zpow_add₀ (by norm_num : (10 : ℚ) ≠ 0), zpow_natCast]
        exact mul_le_mul_of_nonneg_right (by exact_mod_cast pow_digitCount_le hc) (by positivity)
      have hu : (units : ℚ) * 10 ^ (-scale') < 10 ^ ((precision'.toNat : Int) + -scale') := by
        rw [zpow_add₀ (by norm_num : (10 : ℚ) ≠ 0), zpow_natCast]
        exact mul_lt_mul_of_pos_right (by exact_mod_cast hunits) (by positivity)
      have hlt := (zpow_lt_zpow_iff_right₀ (by norm_num : (1 : ℚ) < 10)).mp ((hv ▸ hl).trans_lt hu)
      omega
    rw [if_neg hc.ne', if_neg (by omega), hshift, if_neg (by omega)]

end Decimal

namespace Value

/-- The least unit of a scale within bounds. -/
theorem unitExponent_of_le {scale : Int} (hlow : 0 ≤ scale)
    (hhigh : scale ≤ Decimal.greatestPrecision) : unitExponent scale = .ok (-scale) := by
  have hgreat : Decimal.greatestPrecision = 999999 := rfl
  have hmax : Decimal.maxAdjusted = 999999 := rfl
  rw [unitExponent, if_neg (by omega), if_neg (by omega), max_eq_left (by omega)]

/-- The number of digits that a precision within bounds leaves. -/
theorem digitLimit_of_le {precision : Int} (hhigh : precision ≤ Decimal.greatestPrecision) :
    digitLimit precision = .ok (max precision 28).toNat := by
  have hgreat : Decimal.greatestPrecision = 999999 := rfl
  have hlead : Decimal.maxLeading = 999999999999999999 := rfl
  have hword : Nat.pow 2 63 = 9223372036854775808 := rfl
  rw [digitLimit, if_neg (by omega), if_neg (by omega)]

/-- A decimal that fits its declared type is presented exactly under a wider type. -/
theorem toScale_of_fits {precision scale precision' scale' : Int} {negative : Bool}
    {coefficient : Nat} {exponent : Int}
    (hf : Decimal.Fits precision scale (.finite negative coefficient exponent))
    (hleast : 0 ≤ scale) (hs : scale ≤ precision) (hscale : scale ≤ scale')
    (hinteger : precision - scale ≤ precision' - scale')
    (hbound : precision' ≤ Decimal.greatestPrecision) :
    ∃ units : Nat, units < 10 ^ precision'.toNat ∧
      (coefficient : ℚ) * 10 ^ exponent = units * 10 ^ (-scale') ∧
      toScale (some precision') (some scale') (.decimal (.finite negative coefficient exponent)) =
        .ok (.decimal (.finite negative units (-scale'))) := by
  obtain ⟨units, hunits, hv⟩ := hf.widen hs hscale hinteger hleast
  refine ⟨units, hunits, hv, ?_⟩
  have hrescale := Decimal.rescale?_of_units (max precision' 28).toNat negative
    hv hunits (by omega) (by omega) hbound (by omega)
  simp only [toScale, Outcome.ofOption, bind, Except.bind, digitLimit_of_le hbound,
    unitExponent_of_le (hleast.trans hscale) (by omega), hrescale]
  rfl

end Value

end OrcRows
