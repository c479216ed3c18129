import OrcRows.Number.Binary64
import Mathlib.Algebra.Order.Field.Power
import Mathlib.Tactic.FieldSimp
import Mathlib.Tactic.Linarith
import Mathlib.Tactic.Positivity
import Mathlib.Tactic.Ring

/-!
# Rounding to a binary format, read as arithmetic of rationals

The executable rounding divides naturals. Here a pair of naturals is the rational it stands for.
The main statements: the result of rounding is in normal form, and a rational that the format holds
is left alone. From these, every number narrowed to the 32-bit format is a number of that format,
and narrowing a second time changes nothing.
-/

namespace OrcRows

namespace Rounding

/-- The rational that a numerator and a denominator stand for. -/
def quotient (ratio : Nat × Nat) : ℚ := ratio.1 / ratio.2

/-- Scaling keeps a positive denominator. -/
theorem scaleDown_pos {base den : Nat} (hb : 0 < base) (hd : 0 < den) (num : Nat)
    (exponent : Int) : 0 < (scaleDown base num den exponent).2 := by
  cases exponent with
  | ofNat power => exact Nat.mul_pos hd (Nat.pow_pos hb)
  | negSucc power => exact hd

/-- Scaling divides by a power of the base. -/
theorem quotient_scaleDown {base den : Nat} (hb : 0 < base) (hd : 0 < den) (num : Nat)
    (exponent : Int) :
    quotient (scaleDown base num den exponent) = (num : ℚ) / den / (base : ℚ) ^ exponent := by
  have hbase : (base : ℚ) ≠ 0 := by positivity
  have hden : (den : ℚ) ≠ 0 := by positivity
  cases exponent with
  | ofNat power =>
    simp only [quotient, scaleDown, Int.ofNat_eq_natCast, zpow_natCast, Nat.pow_eq]
    push_cast
    rw [div_div]
  | negSucc power =>
    simp only [quotient, scaleDown, zpow_negSucc, Nat.pow_eq]
    push_cast
    field_simp

/-- A ratio made of a significand and an exponent has a positive denominator. -/
theorem ratioOf_pos {base : Nat} (hb : 0 < base) (significand : Nat) (exponent : Int) :
    0 < (ratioOf base significand exponent).2 := by
  cases exponent with
  | ofNat power => exact Nat.one_pos
  | negSucc power => exact Nat.pow_pos hb

/-- A ratio made of a significand and an exponent is their number. -/
theorem quotient_ratioOf (base significand : Nat) (exponent : Int) :
    quotient (ratioOf base significand exponent) = significand * (base : ℚ) ^ exponent := by
  cases exponent with
  | ofNat power => simp [quotient, ratioOf]
  | negSucc power =>
    simp only [quotient, ratioOf, zpow_negSucc, Nat.pow_eq]
    push_cast
    rw [div_eq_mul_inv]

/-- A quotient below a natural rounds to that natural at most. -/
theorem halfEven_le {num den bound : Nat} (hd : 0 < den) (h : num < bound * den) :
    halfEven num den ≤ bound := by
  have hu := (halfEven_bounds num hd).2
  have hlt : 2 * halfEven num den * den < (2 * bound + 1) * den := by
    rw [Nat.add_mul, Nat.mul_assoc 2 bound]
    omega
  have := Nat.lt_of_mul_lt_mul_right hlt
  omega

/-- A quotient from a natural on rounds to that natural at least. -/
theorem le_halfEven {num den bound : Nat} (hd : 0 < den) (h : bound * den ≤ num) :
    bound ≤ halfEven num den := by
  have hl := (halfEven_bounds num hd).1
  have hle : 2 * bound * den ≤ (2 * halfEven num den + 1) * den := by
    rw [Nat.mul_assoc 2 bound]
    omega
  have := Nat.le_of_mul_le_mul_right hle hd
  omega

end Rounding

open Rounding

namespace BinaryFormat

variable {num den : Nat}

/-- The binade of a positive ratio: the power of two at or below it. -/
theorem binade_spec (hn : 0 < num) (hd : 0 < den) :
    (2 : ℚ) ^ binade num den ≤ (num : ℚ) / den ∧
      (num : ℚ) / den < (2 : ℚ) ^ (binade num den + 1) := by
  have hnum : (0 : ℚ) < num := by exact_mod_cast hn
  have hden : (0 : ℚ) < den := by exact_mod_cast hd
  have two : (2 : ℚ) ≠ 0 := by norm_num
  have hnl : (2 : ℚ) ^ num.log2 ≤ num := by exact_mod_cast Nat.log2_self_le hn.ne'
  have hnu : (num : ℚ) < 2 ^ (num.log2 + 1) := by exact_mod_cast Nat.lt_log2_self
  have hdl : (2 : ℚ) ^ den.log2 ≤ den := by exact_mod_cast Nat.log2_self_le hd.ne'
  have hdu : (den : ℚ) < 2 ^ (den.log2 + 1) := by exact_mod_cast Nat.lt_log2_self
  have hlower : (2 : ℚ) ^ ((num.log2 : Int) - den.log2 - 1) ≤ (num : ℚ) / den := by
    have hsplit : (2 : ℚ) ^ ((num.log2 : Int) - den.log2 - 1) =
        2 ^ num.log2 / 2 ^ (den.log2 + 1) := by
      rw [sub_sub, zpow_sub₀ two, zpow_natCast, ← zpow_natCast (2 : ℚ) (den.log2 + 1)]
      push_cast
      rfl
    rw [hsplit]
    exact div_le_div₀ hnum.le hnl hden hdu.le
  have hupper : (num : ℚ) / den < (2 : ℚ) ^ ((num.log2 : Int) - den.log2 + 1) := by
    have hsplit : (2 : ℚ) ^ ((num.log2 : Int) - den.log2 + 1) =
        2 ^ (num.log2 + 1) / 2 ^ den.log2 := by
      rw [sub_add_eq_add_sub, zpow_sub₀ two, zpow_natCast, ← zpow_natCast (2 : ℚ) (num.log2 + 1)]
      push_cast
      rfl
    rw [hsplit]
    exact div_lt_div₀ hnu hdl (by positivity) (by positivity)
  have hscale := quotient_scaleDown Nat.two_pos hd num
    ((num.log2 : Int) - den.log2)
  have hpos := scaleDown_pos Nat.two_pos hd num ((num.log2 : Int) - den.log2)
  have hp : (0 : ℚ) < ((scaleDown 2 num den ((num.log2 : Int) - den.log2)).2 : ℚ) := by
    exact_mod_cast hpos
  have hpow : (0 : ℚ) < (2 : ℚ) ^ ((num.log2 : Int) - den.log2) := by positivity
  simp only [quotient, Nat.cast_ofNat] at hscale
  simp only [binade]
  split
  case isTrue below =>
    have hb : (num : ℚ) / den / (2 : ℚ) ^ ((num.log2 : Int) - den.log2) < 1 := by
      rw [← hscale, div_lt_one hp]
      exact_mod_cast below
    rw [div_lt_one hpow] at hb
    exact ⟨hlower, by simpa using hb⟩
  case isFalse above =>
    have hb : 1 ≤ (num : ℚ) / den / (2 : ℚ) ^ ((num.log2 : Int) - den.log2) := by
      rw [← hscale, one_le_div hp]
      exact_mod_cast Nat.not_lt.mp above
    rw [one_le_div hpow] at hb
    exact ⟨hb, hupper⟩

/-- The exponent of the last place to which a format rounds a ratio. -/
def grid (format : BinaryFormat) (num den : Nat) : Int :=
  max format.minExponent (binade num den - (format.precision - 1))

/-- Rounding a positive ratio is rounding on its grid, with a carry at the top. -/
theorem nearest_of_pos (format : BinaryFormat) (hn : 0 < num) :
    format.nearest num den =
      if halfEven (scaleDown 2 num den (format.grid num den)).1
          (scaleDown 2 num den (format.grid num den)).2 = 2 ^ format.precision
      then (2 ^ (format.precision - 1), format.grid num den + 1)
      else (halfEven (scaleDown 2 num den (format.grid num den)).1
          (scaleDown 2 num den (format.grid num den)).2, format.grid num den) := by
  rw [nearest, if_neg hn.ne']
  rfl

/-- On the grid of a positive ratio its significand has no more bits than the format. -/
theorem scaled_lt (format : BinaryFormat) (hn : 0 < num) (hd : 0 < den) :
    (scaleDown 2 num den (format.grid num den)).1 <
      2 ^ format.precision * (scaleDown 2 num den (format.grid num den)).2 := by
  have hpos := scaleDown_pos Nat.two_pos hd num (format.grid num den)
  have hval := quotient_scaleDown Nat.two_pos hd num (format.grid num den)
  have hp : (0 : ℚ) < ((scaleDown 2 num den (format.grid num den)).2 : ℚ) := by exact_mod_cast hpos
  have hu := (binade_spec hn hd).2
  have hexp : binade num den + 1 ≤ format.precision + format.grid num den := by
    have := le_max_right format.minExponent (binade num den - (format.precision - 1))
    rw [grid]
    omega
  have hle : (2 : ℚ) ^ (binade num den + 1) ≤
      2 ^ (format.precision : Int) * 2 ^ format.grid num den := by
    rw [← zpow_add₀ (by norm_num : (2 : ℚ) ≠ 0)]
    exact zpow_le_zpow_right₀ (by norm_num) hexp
  have hlt : quotient (scaleDown 2 num den (format.grid num den)) < 2 ^ format.precision := by
    rw [hval, Nat.cast_ofNat, div_lt_iff₀ (by positivity)]
    exact_mod_cast hu.trans_le hle
  rw [quotient, div_lt_iff₀ hp] at hlt
  exact_mod_cast hlt

/-- On a grid above the least exponent the significand has as many bits as the format. -/
theorem le_scaled (format : BinaryFormat) (hp : 1 ≤ format.precision) (hn : 0 < num) (hd : 0 < den)
    (hg : format.grid num den ≠ format.minExponent) :
    2 ^ (format.precision - 1) * (scaleDown 2 num den (format.grid num den)).2 ≤
      (scaleDown 2 num den (format.grid num den)).1 := by
  have hpos := scaleDown_pos Nat.two_pos hd num (format.grid num den)
  have hval := quotient_scaleDown Nat.two_pos hd num (format.grid num den)
  have hq : (0 : ℚ) < ((scaleDown 2 num den (format.grid num den)).2 : ℚ) := by exact_mod_cast hpos
  have hl := (binade_spec hn hd).1
  have hexp : binade num den = (format.precision - 1 : Nat) + format.grid num den := by
    have := max_choice format.minExponent (binade num den - (format.precision - 1))
    rw [grid] at hg ⊢
    omega
  rw [hexp, zpow_add₀ (by norm_num : (2 : ℚ) ≠ 0), zpow_natCast] at hl
  have hle : (2 : ℚ) ^ (format.precision - 1) ≤
      quotient (scaleDown 2 num den (format.grid num den)) := by
    rw [hval, Nat.cast_ofNat, le_div_iff₀ (by positivity)]
    exact hl
  rw [quotient, le_div_iff₀ hq] at hle
  exact_mod_cast hle

/-- Normal form of a significand and an exponent in a format: all bits are used unless the exponent
is least. -/
structure IsNormal (format : BinaryFormat) (parts : Nat × Int) : Prop where
  /-- The significand fits into the bits of the format. -/
  fits : parts.1 < 2 ^ format.precision
  /-- The exponent is not below the least one. -/
  least : format.minExponent ≤ parts.2
  /-- The leading bit is used, unless the exponent is the least one. -/
  leading : 2 ^ (format.precision - 1) ≤ parts.1 ∨ parts.2 = format.minExponent

/-- Rounding results in normal form. -/
theorem nearest_isNormal (format : BinaryFormat) (hp : 1 ≤ format.precision) (num : Nat)
    (hd : 0 < den) : format.IsNormal (format.nearest num den) := by
  rcases Nat.eq_zero_or_pos num with rfl | hn
  · exact ⟨Nat.two_pow_pos _, le_rfl, .inr rfl⟩
  have hpos := scaleDown_pos Nat.two_pos hd num (format.grid num den)
  have hle := halfEven_le hpos (format.scaled_lt hn hd)
  have hgrid : format.minExponent ≤ format.grid num den := le_max_left ..
  have hpow : 2 ^ (format.precision - 1) < 2 ^ format.precision :=
    Nat.pow_lt_pow_right (by norm_num) (by omega)
  rw [nearest_of_pos format hn]
  split
  case isTrue carry => exact ⟨hpow, by dsimp only; omega, .inl le_rfl⟩
  case isFalse whole =>
    refine ⟨lt_of_le_of_ne hle whole, hgrid, ?_⟩
    by_cases hg : format.grid num den = format.minExponent
    · exact .inr hg
    · exact .inl (le_halfEven hpos (format.le_scaled hp hn hd hg))

/-- Two normal forms of one number are the same. -/
theorem IsNormal.eq_of_value {format : BinaryFormat} (hp : 1 ≤ format.precision)
    {parts other : Nat × Int} (hl : format.IsNormal parts) (hr : format.IsNormal other)
    (hv : (parts.1 : ℚ) * 2 ^ parts.2 = other.1 * 2 ^ other.2) : parts = other := by
  wlog hle : parts.2 ≤ other.2 generalizing parts other
  · exact (this hr hl hv.symm (by omega)).symm
  obtain ⟨shift, hshift⟩ := Int.le.dest hle
  have hsig : parts.1 = other.1 * 2 ^ shift := by
    rw [← hshift, zpow_add₀ (by norm_num : (2 : ℚ) ≠ 0), zpow_natCast] at hv
    have hpow : (2 : ℚ) ^ parts.2 ≠ 0 := by positivity
    have hq : (parts.1 : ℚ) = other.1 * 2 ^ shift := by
      apply mul_right_cancel₀ hpow
      rw [hv]
      ring
    exact_mod_cast hq
  have hzero : shift = 0 := by
    by_contra hne
    have hlead := hr.leading.resolve_right (by have := hl.least; omega)
    have hdouble : 2 ^ format.precision = 2 ^ (format.precision - 1) * 2 ^ 1 := by
      rw [← Nat.pow_add]
      congr 1
      omega
    have hshifted : 2 ^ (format.precision - 1) * 2 ^ 1 ≤ other.1 * 2 ^ shift :=
      Nat.mul_le_mul hlead (Nat.pow_le_pow_right (by norm_num) (by omega))
    have := hl.fits
    omega
  subst hzero
  exact Prod.ext (by simpa using hsig) (by simpa using hshift)

/-- The rationals that a format holds: naturals of its precision, scaled by an exponent in its
range. -/
def Holds (format : BinaryFormat) (value : ℚ) : Prop :=
  ∃ (significand : Nat) (exponent : Int), significand < 2 ^ format.precision ∧
    format.minExponent ≤ exponent ∧ exponent ≤ format.maxExponent ∧
    value = significand * 2 ^ exponent

/-- A ratio that a format holds is left alone, and its exponent stays in range. -/
theorem nearest_of_holds {format : BinaryFormat} (hrange : format.minExponent ≤ format.maxExponent)
    (num : Nat) (hd : 0 < den) (hh : format.Holds ((num : ℚ) / den)) :
    ((format.nearest num den).1 : ℚ) * 2 ^ (format.nearest num den).2 = (num : ℚ) / den ∧
      (format.nearest num den).2 ≤ format.maxExponent := by
  rcases Nat.eq_zero_or_pos num with rfl | hn
  · exact ⟨by simp [nearest], hrange⟩
  obtain ⟨k, e, hk, hmin, hmax, hval⟩ := hh
  have two : (2 : ℚ) ≠ 0 := by norm_num
  have hpos := scaleDown_pos Nat.two_pos hd num (format.grid num den)
  have hgrid : format.grid num den ≤ e := by
    have hl := (binade_spec hn hd).1
    have hu : (k : ℚ) * 2 ^ e < 2 ^ ((format.precision : Int) + e) := by
      rw [zpow_add₀ two, zpow_natCast]
      exact mul_lt_mul_of_pos_right (by exact_mod_cast hk) (by positivity)
    have hlt := (zpow_lt_zpow_iff_right₀ (by norm_num : (1 : ℚ) < 2)).mp
      ((hval ▸ hl).trans_lt hu)
    rw [grid]
    omega
  obtain ⟨shift, hshift⟩ := Int.le.dest hgrid
  have hscaled : (scaleDown 2 num den (format.grid num den)).1 =
      k * 2 ^ shift * (scaleDown 2 num den (format.grid num den)).2 := by
    have hq := quotient_scaleDown Nat.two_pos hd num (format.grid num den)
    have hne : ((scaleDown 2 num den (format.grid num den)).2 : ℚ) ≠ 0 := by exact_mod_cast hpos.ne'
    rw [hval, ← hshift, Nat.cast_ofNat, zpow_add₀ two, zpow_natCast, quotient, div_eq_iff hne] at hq
    have hpow : (2 : ℚ) ^ format.grid num den ≠ 0 := by positivity
    field_simp at hq
    exact_mod_cast hq
  have hround : halfEven (scaleDown 2 num den (format.grid num den)).1
      (scaleDown 2 num den (format.grid num den)).2 = k * 2 ^ shift := by
    rw [hscaled, halfEven_mul_right _ hpos]
  have hfit : k * 2 ^ shift < 2 ^ format.precision := by
    have hlt := format.scaled_lt hn hd
    rw [hscaled] at hlt
    exact Nat.lt_of_mul_lt_mul_right hlt
  rw [nearest_of_pos format hn, hround, if_neg hfit.ne]
  refine ⟨?_, hgrid.trans hmax⟩
  rw [hval, ← hshift, zpow_add₀ two, zpow_natCast]
  push_cast
  ring

end BinaryFormat

end OrcRows
