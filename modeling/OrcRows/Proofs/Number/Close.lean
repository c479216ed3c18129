import OrcRows.Proofs.Number.Single

/-!
# Numbers close to a number of a format

The result of rounding depends on the rational only, not on the numerator and the denominator that
it is given by. A rational whose distance from a number of a format is small for the precision is
rounded to that number, also below a power of two, where the neighbours are nearer.
-/

namespace OrcRows

namespace Rounding

/-- A ratio made of a positive significand and an exponent is positive. -/
theorem ratioOf_fst_pos {base significand : Nat} (hb : 0 < base) (hs : 0 < significand)
    (exponent : Int) : 0 < (ratioOf base significand exponent).1 := by
  cases exponent with
  | ofNat power => exact Nat.mul_pos hs (Nat.pow_pos hb)
  | negSucc power => exact hs

/-- A ratio made of a significand and a power of two is their number. -/
theorem div_ratioOf_two (significand : Nat) (exponent : Int) :
    ((ratioOf 2 significand exponent).1 : ℚ) / (ratioOf 2 significand exponent).2 =
      significand * 2 ^ exponent := by
  exact_mod_cast quotient_ratioOf 2 significand exponent

/-- A natural that counts up to something positive is positive. -/
theorem pos_of_cast_mul_pos {count : Nat} {unit : ℚ} (h : 0 < (count : ℚ) * unit) : 0 < count := by
  rcases Nat.eq_zero_or_pos count with rfl | positive
  · rw [Nat.cast_zero, zero_mul] at h
    exact absurd h (lt_irrefl 0)
  · exact positive

/-- A common factor of numerator and denominator does not matter. -/
theorem halfEven_mul_mul (num den : Nat) {factor : Nat} (hf : 0 < factor) :
    halfEven (num * factor) (den * factor) = halfEven num den := by
  have below : 2 * (num % den * factor) < den * factor ↔ 2 * (num % den) < den := by
    rw [← Nat.mul_assoc]
    exact Nat.mul_lt_mul_right hf
  have above : den * factor < 2 * (num % den * factor) ↔ den < 2 * (num % den) := by
    rw [← Nat.mul_assoc]
    exact Nat.mul_lt_mul_right hf
  simp only [halfEven, Nat.mul_div_mul_right _ _ hf, Nat.mul_mod_mul_right, below, above]

/-- Equal quotients are rounded to the same natural. -/
theorem halfEven_congr {ratio other : Nat × Nat} (hr : 0 < ratio.2) (ho : 0 < other.2)
    (same : quotient ratio = quotient other) :
    halfEven ratio.1 ratio.2 = halfEven other.1 other.2 := by
  have hr' : (ratio.2 : ℚ) ≠ 0 := by positivity
  have ho' : (other.2 : ℚ) ≠ 0 := by positivity
  have cross : ratio.1 * other.2 = other.1 * ratio.2 := by
    rw [quotient, quotient, div_eq_div_iff hr' ho'] at same
    exact_mod_cast same
  rw [← halfEven_mul_mul ratio.1 ratio.2 ho, ← halfEven_mul_mul other.1 other.2 hr, cross,
    Nat.mul_comm ratio.2]

/-- A quotient within half a unit of a natural is rounded to that natural. -/
theorem halfEven_of_close {ratio : Nat × Nat} {natural : Nat} (hr : 0 < ratio.2)
    (close : |quotient ratio - natural| < 1 / 2) : halfEven ratio.1 ratio.2 = natural := by
  have positive : (0 : ℚ) < ratio.2 := by exact_mod_cast hr
  have value : quotient ratio * ratio.2 = ratio.1 := by rw [quotient]; field_simp
  obtain ⟨hlow, hhigh⟩ := abs_lt.mp close
  have low : (2 * natural : ℚ) * ratio.2 < 2 * ratio.1 + ratio.2 := by
    rw [← value]
    nlinarith
  have high : (2 * ratio.1 : ℚ) < (2 * natural + 1) * ratio.2 := by
    rw [← value]
    nlinarith
  have low' : 2 * natural * ratio.2 < 2 * ratio.1 + ratio.2 := by exact_mod_cast low
  have high' : 2 * ratio.1 < (2 * natural + 1) * ratio.2 := by exact_mod_cast high
  obtain ⟨below, above⟩ := halfEven_bounds ratio.1 hr
  have least : natural < halfEven ratio.1 ratio.2 + 1 := by
    apply Nat.lt_of_mul_lt_mul_right (a := ratio.2)
    nlinarith
  have most : halfEven ratio.1 ratio.2 < natural + 1 := by
    apply Nat.lt_of_mul_lt_mul_right (a := ratio.2)
    nlinarith
  omega

/-- Rounding moves a quotient by half a unit at most. -/
theorem abs_halfEven_sub_le {ratio : Nat × Nat} (hr : 0 < ratio.2) :
    |(halfEven ratio.1 ratio.2 : ℚ) - quotient ratio| ≤ 1 / 2 := by
  have positive : (0 : ℚ) < ratio.2 := by exact_mod_cast hr
  obtain ⟨below, above⟩ := halfEven_bounds ratio.1 hr
  have below' : (2 * ratio.1 : ℚ) ≤ (2 * halfEven ratio.1 ratio.2 + 1) * ratio.2 := by
    exact_mod_cast below
  have above' : (2 * halfEven ratio.1 ratio.2 : ℚ) * ratio.2 ≤ 2 * ratio.1 + ratio.2 := by
    exact_mod_cast above
  have low : quotient ratio ≤ halfEven ratio.1 ratio.2 + 1 / 2 := by
    rw [quotient, div_le_iff₀ positive]
    linarith
  have high : halfEven ratio.1 ratio.2 - 1 / 2 ≤ quotient ratio := by
    rw [quotient, le_div_iff₀ positive]
    linarith
  rw [abs_le]
  exact ⟨by linarith, by linarith⟩

/-- Rounding on a grid moves a ratio by half the distance of its points at most. -/
theorem abs_halfEven_scaleDown_sub_le {base den : Nat} (hb : 0 < base) (hd : 0 < den) (num : Nat)
    (exponent : Int) :
    |(halfEven (scaleDown base num den exponent).1 (scaleDown base num den exponent).2 : ℚ) *
      base ^ exponent - num / den| ≤ base ^ exponent / 2 := by
  have positive : (0 : ℚ) < base ^ exponent := by positivity
  have near := abs_halfEven_sub_le (scaleDown_pos hb hd num exponent)
  rw [quotient_scaleDown hb hd] at near
  calc _ = |(halfEven (scaleDown base num den exponent).1
            (scaleDown base num den exponent).2 : ℚ) - num / den / base ^ exponent| *
          base ^ exponent := by
        rw [← abs_of_pos positive, ← abs_mul, abs_of_pos positive, sub_mul,
          div_mul_cancel₀ _ positive.ne']
    _ ≤ 1 / 2 * base ^ exponent := mul_le_mul_of_nonneg_right near positive.le
    _ = base ^ exponent / 2 := by ring

end Rounding

open Rounding

namespace BinaryFormat

variable {num den num' den' : Nat}

/-- The binade of a ratio is below an exponent if the ratio is below its power of two. -/
theorem binade_lt_iff {exponent : Int} (hn : 0 < num) (hd : 0 < den) :
    binade num den < exponent ↔ (num : ℚ) / den < 2 ^ exponent := by
  obtain ⟨low, high⟩ := binade_spec hn hd
  have two : (1 : ℚ) < 2 := by norm_num
  constructor
  · intro below
    exact high.trans_le (zpow_le_zpow_right₀ two.le (by omega))
  · intro below
    exact (zpow_lt_zpow_iff_right₀ two).mp (low.trans_lt below)

/-- Rounding to a format depends on the value of a ratio only. -/
theorem nearest_congr (format : BinaryFormat) (hd : 0 < den) (hd' : 0 < den')
    (same : (num : ℚ) / den = (num' : ℚ) / den') :
    format.nearest num den = format.nearest num' den' := by
  have cross : num * den' = num' * den := by
    rw [div_eq_div_iff (by positivity) (by positivity)] at same
    exact_mod_cast same
  rcases Nat.eq_zero_or_pos num with rfl | hn
  · have zero : num' = 0 := by
      rw [Nat.zero_mul] at cross
      exact (Nat.mul_eq_zero.mp cross.symm).resolve_right hd.ne'
    rw [zero, nearest, nearest, if_pos rfl, if_pos rfl]
  · have hn' : 0 < num' := Nat.pos_of_mul_pos_right (cross ▸ Nat.mul_pos hn hd')
    have binades : binade num den = binade num' den' := by
      apply eq_of_forall_lt_iff
      intro exponent
      rw [← not_le, ← not_le, ← Int.lt_add_one_iff, ← Int.lt_add_one_iff, binade_lt_iff hn hd,
        binade_lt_iff hn' hd', same]
    have grids : format.grid num den = format.grid num' den' := by rw [grid, grid, binades]
    have scaled := halfEven_congr (scaleDown_pos Nat.two_pos hd num (format.grid num den))
      (scaleDown_pos Nat.two_pos hd' num' (format.grid num den))
      (by rw [quotient_scaleDown Nat.two_pos hd, quotient_scaleDown Nat.two_pos hd', same])
    rw [nearest_of_pos format hn, nearest_of_pos format hn', ← grids, scaled]

variable {format : BinaryFormat} {significand : Nat} {exponent : Int}

/-- Rounding on the grid of a ratio goes to the natural next to the scaled ratio. -/
theorem halfEven_grid (hd : 0 < den) (same : format.grid num den = exponent)
    (close : |(num : ℚ) / den / 2 ^ exponent - significand| < 1 / 2) :
    halfEven (scaleDown 2 num den (format.grid num den)).1
      (scaleDown 2 num den (format.grid num den)).2 = significand := by
  rw [same]
  apply halfEven_of_close (scaleDown_pos Nat.two_pos hd num exponent)
  rw [quotient_scaleDown Nat.two_pos hd]
  exact close

/-- Right below a power of two the grid is finer than right above it, and what is close to the power
is rounded up to it. -/
theorem nearest_below_power (hp : 1 ≤ format.precision) (least : format.minExponent < exponent)
    (hn : 0 < num) (hd : 0 < den)
    (below : (num : ℚ) / den / 2 ^ exponent < 2 ^ (format.precision - 1))
    (close : |(num : ℚ) / den / 2 ^ exponent - 2 ^ (format.precision - 1)| < 1 / 4) :
    format.nearest num den = (2 ^ (format.precision - 1), exponent) := by
  have two : (2 : ℚ) ≠ 0 := by norm_num
  have unit : (0 : ℚ) < 2 ^ exponent := by positivity
  have leading : (1 : ℚ) ≤ 2 ^ (format.precision - 1) := one_le_pow₀ (by norm_num)
  have double : (2 : ℚ) ^ format.precision = 2 * 2 ^ (format.precision - 1) := by
    rw [← pow_succ', Nat.sub_add_cancel hp]
  have top : binade num den < (format.precision - 1 : Nat) + exponent := by
    rw [binade_lt_iff hn hd, zpow_add₀ two, zpow_natCast]
    exact (div_lt_iff₀ unit).mp below
  have bottom : ¬ binade num den < (format.precision - 1 : Nat) + (exponent - 1) := by
    rw [binade_lt_iff hn hd, zpow_add₀ two, zpow_natCast, zpow_sub_one₀ two, not_lt]
    have half : (2 : ℚ) ^ (format.precision - 1) / 2 ≤ num / den / 2 ^ exponent := by
      linarith [(abs_lt.mp close).1]
    rw [le_div_iff₀ unit] at half
    linarith
  have grids : format.grid num den = exponent - 1 := by
    rw [grid]
    omega
  have carry : |(num : ℚ) / den / 2 ^ (exponent - 1) - (2 ^ format.precision : Nat)| < 1 / 2 := by
    have split : (num : ℚ) / den / 2 ^ (exponent - 1) - (2 ^ format.precision : Nat) =
        2 * (num / den / 2 ^ exponent - 2 ^ (format.precision - 1)) := by
      rw [zpow_sub_one₀ two, Nat.cast_pow, Nat.cast_ofNat, double]
      field_simp
    rw [split, abs_mul, abs_two]
    linarith
  rw [nearest_of_pos format hn, halfEven_grid hd grids carry, if_pos rfl, grids, sub_add_cancel]

/-- On its own grid a number of a format is the nearest to what is less than half a unit away. -/
theorem nearest_on_grid (hn : 0 < num) (hd : 0 < den) (fits : significand < 2 ^ format.precision)
    (same : format.grid num den = exponent)
    (close : |(num : ℚ) / den / 2 ^ exponent - significand| < 1 / 2) :
    format.nearest num den = (significand, exponent) := by
  rw [nearest_of_pos format hn, halfEven_grid hd same close, if_neg fits.ne, same]

/-- Closeness to a number, in units of its last place. -/
theorem abs_div_sub_lt {value : ℚ} {precision : Nat}
    (close : |value - significand * 2 ^ exponent| <
      significand * 2 ^ exponent / 2 ^ (precision + 1)) :
    |value / 2 ^ exponent - significand| < significand / 2 ^ precision / 2 := by
  have unit : (0 : ℚ) < 2 ^ exponent := by positivity
  have split : value / 2 ^ exponent - significand =
      (value - significand * 2 ^ exponent) / 2 ^ exponent := by field_simp
  rw [split, abs_div, abs_of_pos unit, div_lt_iff₀ unit]
  refine close.trans_eq ?_
  rw [pow_succ]
  field_simp

/-- A ratio whose distance from a number of a format is less than that number shifted out by one bit
more than the precision is rounded to that number. -/
theorem nearest_of_close (hp : 1 ≤ format.precision)
    (normal : format.IsNormal (significand, exponent)) (positive : 0 < significand) (hd : 0 < den)
    (close : |(num : ℚ) / den - significand * 2 ^ exponent| <
      significand * 2 ^ exponent / 2 ^ (format.precision + 1)) :
    format.nearest num den = (significand, exponent) := by
  obtain ⟨fits, least, leading⟩ := normal
  dsimp only at fits least leading
  have two : (2 : ℚ) ≠ 0 := by norm_num
  have unit : (0 : ℚ) < 2 ^ exponent := by positivity
  have bits : (0 : ℚ) < 2 ^ format.precision := by positivity
  have positive' : (1 : ℚ) ≤ significand := by exact_mod_cast positive
  have fits' : (significand : ℚ) + 1 ≤ 2 ^ format.precision := by exact_mod_cast fits
  have share : (significand : ℚ) / 2 ^ format.precision < 1 := by
    rw [div_lt_one bits]
    linarith
  have near := abs_div_sub_lt close
  obtain ⟨low, high⟩ := abs_lt.mp near
  have hn : 0 < num := by
    by_contra none
    obtain rfl : num = 0 := by omega
    rw [Nat.cast_zero, zero_div, zero_div] at low
    linarith
  have top : binade num den < format.precision + exponent := by
    rw [binade_lt_iff hn hd, zpow_add₀ two, zpow_natCast, ← div_lt_iff₀ unit]
    linarith
  by_cases same : format.grid num den = exponent
  · exact nearest_on_grid hn hd fits same (by linarith)
  · -- The grid of the ratio is finer only if the number is a power of two and the ratio is below.
    have finer : format.grid num den < exponent := by
      rw [grid] at same ⊢
      omega
    have above : format.minExponent < exponent := (le_max_left _ _).trans_lt finer
    have full := leading.resolve_right above.ne'
    have below : (num : ℚ) / den / 2 ^ exponent < 2 ^ (format.precision - 1) := by
      rw [div_lt_iff₀ unit, ← zpow_natCast, ← zpow_add₀ two, ← binade_lt_iff hn hd]
      rw [grid] at finer
      omega
    obtain rfl : significand = 2 ^ (format.precision - 1) := by
      have : (significand : ℚ) < (2 ^ (format.precision - 1) + 1 : Nat) := by
        push_cast
        linarith
      have : significand < 2 ^ (format.precision - 1) + 1 := by exact_mod_cast this
      omega
    have double : (2 : ℚ) ^ format.precision = 2 * 2 ^ (format.precision - 1) := by
      rw [← pow_succ', Nat.sub_add_cancel hp]
    apply nearest_below_power hp above hn hd below
    rw [Nat.cast_pow, Nat.cast_ofNat] at near
    refine near.trans_eq ?_
    rw [double]
    field_simp
    norm_num

/-- Rounding to a format moves a ratio by half a unit of the last place at most. -/
theorem abs_nearest_sub_le (format : BinaryFormat) (hp : 1 ≤ format.precision) (hn : 0 < num)
    (hd : 0 < den) :
    |((format.nearest num den).1 : ℚ) * 2 ^ (format.nearest num den).2 - num / den| ≤
      2 ^ format.grid num den / 2 := by
  have near := abs_halfEven_scaleDown_sub_le Nat.two_pos hd num (format.grid num den)
  rw [Nat.cast_ofNat] at near
  rw [nearest_of_pos format hn]
  split
  case isTrue carry =>
    have double : (2 : ℚ) ^ format.precision = 2 ^ (format.precision - 1) * 2 := by
      rw [← pow_succ, Nat.sub_add_cancel hp]
    rw [carry, Nat.cast_pow, Nat.cast_ofNat, double] at near
    rw [zpow_add_one₀ (by norm_num), Nat.cast_pow, Nat.cast_ofNat, mul_comm _ (2 : ℚ), ← mul_assoc]
    exact near
  case isFalse => exact near

end BinaryFormat

end OrcRows
