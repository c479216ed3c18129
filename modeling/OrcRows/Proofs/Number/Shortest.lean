import OrcRows.Number.Shortest
import OrcRows.Proofs.Number.Close

/-!
# Shortest decimals read back

A decimal that is near enough to a binary number reads back as that number, and seventeen digits are
near enough. So the search for the fewest digits always ends in a decimal that reads back. Its
digits and its exponent stay within bounds, which is what its text needs to be read.
-/

namespace OrcRows

open Rounding

namespace Rounding

/-- Every natural has a digit. -/
theorem digitCount_pos (n : Nat) : 0 < digitCount n := by
  rw [digitCount]
  split <;> omega

end Rounding

namespace Binary64

variable {negative : Bool} {base base' significand significand' : Nat} {exponent exponent' : Int}

/-- Reading a significand and an exponent depends on their number only. -/
theorem ofScientific_congr (hb : 0 < base) (hb' : 0 < base')
    (same : (significand : ℚ) * base ^ exponent = significand' * base' ^ exponent') :
    ofScientific negative base significand exponent =
      ofScientific negative base' significand' exponent' := by
  have value := quotient_ratioOf base significand exponent
  have value' := quotient_ratioOf base' significand' exponent'
  rw [quotient] at value value'
  simp only [ofScientific, ofRatio]
  rw [BinaryFormat.nearest_congr .double (ratioOf_pos hb _ _) (ratioOf_pos hb' _ _)
    (by rw [value, value', same])]

/-- A number near enough to a binary number reads back as that number. -/
theorem ofScientific_of_close {m : Nat} {q : Int} {canonical : IsCanonical m q} (hb : 0 < base)
    (positive : 0 < m)
    (close : |(significand : ℚ) * base ^ exponent - m * 2 ^ q| < m * 2 ^ q / 2 ^ 54) :
    ofScientific negative base significand exponent = .finite negative m q canonical := by
  have value := quotient_ratioOf base significand exponent
  rw [quotient] at value
  have normal := ((isCanonical_iff (m, q)).mp canonical).1
  have parts := BinaryFormat.nearest_of_close (by decide) normal positive
    (ratioOf_pos hb significand exponent) (by rw [value]; exact close)
  simp only [ofScientific, ofRatio, ofParts, parts]
  rw [dif_pos canonical]

end Binary64

namespace Scientific

variable {num den : Nat}

/-- The decade of a positive ratio: the power of ten at or below it. -/
theorem decade_spec (hn : 0 < num) (hd : 0 < den) :
    (10 : ℚ) ^ decade num den ≤ (num : ℚ) / den ∧
      (num : ℚ) / den < (10 : ℚ) ^ (decade num den + 1) := by
  have hden : (0 : ℚ) < den := by exact_mod_cast hd
  rw [le_div_iff₀ hden, div_lt_iff₀ hden, decade]
  split
  case isTrue large =>
    have some : 0 < num / den := Nat.div_pos large hd
    have least : 10 ^ (digitCount (num / den) - 1) * den ≤ num :=
      (Nat.le_div_iff_mul_le hd).mp (pow_digitCount_le some)
    have most : num < 10 ^ digitCount (num / den) * den :=
      (Nat.div_lt_iff_lt_mul hd).mp (lt_pow_digitCount (num / den))
    have places : (digitCount (num / den) : Int) - 1 = (digitCount (num / den) - 1 : Nat) := by
      have := digitCount_pos (num / den)
      omega
    rw [sub_add_cancel, places, zpow_natCast, zpow_natCast]
    exact ⟨by exact_mod_cast least, by exact_mod_cast most⟩
  case isFalse small =>
    have some : 0 < (den - 1) / num := Nat.div_pos (by omega) hn
    have least : 10 ^ (digitCount ((den - 1) / num) - 1) * num ≤ den - 1 :=
      (Nat.le_div_iff_mul_le hn).mp (pow_digitCount_le some)
    have most : den - 1 < 10 ^ digitCount ((den - 1) / num) * num :=
      (Nat.div_lt_iff_lt_mul hn).mp (lt_pow_digitCount ((den - 1) / num))
    have places : -(digitCount ((den - 1) / num) : Int) + 1 =
        -(digitCount ((den - 1) / num) - 1 : Nat) := by
      have := digitCount_pos ((den - 1) / num)
      omega
    rw [places, zpow_neg, zpow_neg, zpow_natCast, zpow_natCast, inv_mul_le_iff₀ (by positivity),
      lt_inv_mul_iff₀ (by positivity)]
    constructor
    · have : den ≤ 10 ^ digitCount ((den - 1) / num) * num := by omega
      exact_mod_cast this
    · have : 10 ^ (digitCount ((den - 1) / num) - 1) * num < den := by omega
      exact_mod_cast this

/-- The number of a decimal. -/
def value (decimal : Scientific) : ℚ := decimal.digits * 10 ^ decimal.exponent

/-- Reading a decimal depends on its number only. -/
theorem toBinary64_congr {decimal other : Scientific} (same : decimal.value = other.value)
    (negative : Bool) : decimal.toBinary64 negative = other.toBinary64 negative :=
  Binary64.ofScientific_congr (by norm_num) (by norm_num) (by exact_mod_cast same)

/-- Removing trailing zeros keeps the number. -/
theorem value_trimZeros (fuel : Nat) (decimal : Scientific) :
    (trimZeros fuel decimal).value = decimal.value := by
  induction fuel generalizing decimal with
  | zero => rfl
  | succ fuel ih =>
    rw [trimZeros]
    split
    case isTrue zero =>
      have split : decimal.digits = decimal.digits / 10 * 10 := by omega
      have whole : (decimal.digits : ℚ) = (decimal.digits / 10 : Nat) * 10 := by
        exact_mod_cast split
      rw [ih, value, value, whole, zpow_add_one₀ (by norm_num)]
      ring
    case isFalse => rfl

/-- Rounding to a number of digits moves a ratio by half a unit of the last digit at most. -/
theorem abs_value_ofRatio_sub_le (hn : 0 < num) (hd : 0 < den) (count : Nat) :
    |(ofRatio num den count).value - num / den| ≤ num / den * (10 / 10 ^ count) / 2 := by
  have ten : (10 : ℚ) ≠ 0 := by norm_num
  have least := (decade_spec hn hd).1
  have unit : (10 : ℚ) ^ (decade num den - count + 1) =
      10 ^ decade num den * (10 / 10 ^ count) := by
    rw [zpow_add_one₀ ten, zpow_sub₀ ten, zpow_natCast]
    ring
  calc |(ofRatio num den count).value - num / den|
      ≤ 10 ^ (decade num den - count + 1) / 2 :=
        abs_halfEven_scaleDown_sub_le (show 0 < 10 by norm_num) hd num _
    _ = 10 ^ decade num den * (10 / 10 ^ count) / 2 := by rw [unit]
    _ ≤ num / den * (10 / 10 ^ count) / 2 := by gcongr

/-- A neighbour on a grid that is found reads back, and is the number of units below the ratio or
the next. -/
theorem onGrid?_eq_some {target : Binary64} {negative : Bool} {exponent : Int}
    {decimal : Scientific} (found : onGrid? target negative num den exponent = some decimal) :
    decimal.toBinary64 negative = target ∧ decimal.exponent = exponent ∧
      decimal.digits ≤
        (scaleDown 10 num den exponent).1 / (scaleDown 10 num den exponent).2 + 1 := by
  rw [onGrid?] at found
  have reads := List.find?_some found
  have among := List.mem_of_find?_eq_some found
  refine ⟨of_decide_eq_true reads, ?_⟩
  dsimp only at among
  split at among <;> simp only [List.mem_cons, List.not_mem_nil, or_false] at among <;>
    rcases among with rfl | rfl <;> exact ⟨rfl, by dsimp only; omega⟩

section Reading

variable {negative : Bool} {m : Nat} {q : Int} {canonical : IsCanonical m q}

/-- Seventeen digits of a binary number read back as that number. -/
theorem toBinary64_ofRatio (hn : 0 < num) (hd : 0 < den) (positive : 0 < m)
    (same : (num : ℚ) / den = m * 2 ^ q) :
    (ofRatio num den 17).toBinary64 negative = .finite negative m q canonical := by
  have near := abs_value_ofRatio_sub_le hn hd 17
  rw [same] at near
  apply Binary64.ofScientific_of_close (by norm_num) positive
  refine lt_of_le_of_lt (by exact_mod_cast near) ?_
  have : (0 : ℚ) < m * 2 ^ q := by positivity
  linarith

/-- The shortest decimal of a binary number reads back as that number. -/
theorem toBinary64_shortest (hn : 0 < num) (hd : 0 < den) (positive : 0 < m)
    (same : (num : ℚ) / den = m * 2 ^ q) :
    (shortest (.finite negative m q canonical) negative num den).toBinary64 negative =
      .finite negative m q canonical := by
  rw [shortest, toBinary64_congr (value_trimZeros 20 _)]
  cases search : (List.range 17).findSome? fun (count : Nat) =>
      onGrid? (.finite negative m q canonical) negative num den (decade num den - count) with
  | none => exact toBinary64_ofRatio hn hd positive same
  | some found =>
    obtain ⟨count, -, ongrid⟩ := List.exists_of_findSome?_eq_some search
    exact (onGrid?_eq_some ongrid).1

end Reading

section Bounds

/-- Removing trailing zeros makes the digits no more, and the exponent no less. -/
theorem trimZeros_bounds (fuel : Nat) (decimal : Scientific) :
    (trimZeros fuel decimal).digits ≤ decimal.digits ∧
      decimal.exponent ≤ (trimZeros fuel decimal).exponent ∧
      (trimZeros fuel decimal).exponent ≤ decimal.exponent + fuel := by
  induction fuel generalizing decimal with
  | zero => exact ⟨le_rfl, le_rfl, by simp [trimZeros]⟩
  | succ fuel ih =>
    rw [trimZeros]
    split
    case isTrue zero =>
      obtain ⟨fewer, least, most⟩ := ih ⟨decimal.digits / 10, decimal.exponent + 1⟩
      dsimp only at fewer least most
      exact ⟨by omega, by omega, by omega⟩
    case isFalse => exact ⟨le_rfl, le_rfl, by omega⟩

/-- On the grids that are searched, and on that of seventeen digits, a ratio has fewer units than
eighteen digits can count. -/
theorem scaled_lt (hn : 0 < num) (hd : 0 < den) {exponent : Int}
    (searched : decade num den - 16 ≤ exponent) :
    (scaleDown 10 num den exponent).1 < 10 ^ 17 * (scaleDown 10 num den exponent).2 := by
  have ten : (10 : ℚ) ≠ 0 := by norm_num
  have hpos := scaleDown_pos (show 0 < 10 by norm_num) hd num exponent
  have hpos' : (0 : ℚ) < (scaleDown 10 num den exponent).2 := by exact_mod_cast hpos
  have value := quotient_scaleDown (show 0 < 10 by norm_num) hd num exponent
  have few : quotient (scaleDown 10 num den exponent) < 10 ^ 17 := by
    rw [value, Nat.cast_ofNat, div_lt_iff₀ (by positivity), ← zpow_natCast, ← zpow_add₀ ten]
    refine (decade_spec hn hd).2.trans_le (zpow_le_zpow_right₀ (by norm_num) ?_)
    push_cast
    omega
  rw [quotient, div_lt_iff₀ hpos'] at few
  exact_mod_cast few

/-- The shortest decimal has at most eighteen digits, and an exponent near the decade. -/
theorem shortest_bounds (target : Binary64) (negative : Bool) (hn : 0 < num) (hd : 0 < den) :
    (shortest target negative num den).digits ≤ 10 ^ 17 ∧
      decade num den - 16 ≤ (shortest target negative num den).exponent ∧
      (shortest target negative num den).exponent ≤ decade num den + 20 := by
  have searched : ∀ decimal : Scientific, decimal.digits ≤ 10 ^ 17 →
      decade num den - 16 ≤ decimal.exponent → decimal.exponent ≤ decade num den →
      (trimZeros 20 decimal).digits ≤ 10 ^ 17 ∧
        decade num den - 16 ≤ (trimZeros 20 decimal).exponent ∧
        (trimZeros 20 decimal).exponent ≤ decade num den + 20 := by
    intro decimal fewer least most
    obtain ⟨fewer', least', most'⟩ := trimZeros_bounds 20 decimal
    exact ⟨by omega, by omega, by omega⟩
  rw [shortest]
  cases search : (List.range 17).findSome? fun (count : Nat) =>
      onGrid? target negative num den (decade num den - count) with
  | none =>
    have exponent : (ofRatio num den 17).exponent = decade num den - 16 := by
      rw [ofRatio]
      dsimp only
      omega
    refine searched _ ?_ exponent.ge (by rw [Option.getD_none, exponent]; omega)
    exact halfEven_le (scaleDown_pos (by norm_num) hd num _) (scaled_lt hn hd exponent.ge)
  | some found =>
    obtain ⟨count, among, ongrid⟩ := List.exists_of_findSome?_eq_some search
    obtain ⟨-, exponent, fewer⟩ := onGrid?_eq_some ongrid
    have few := List.mem_range.mp among
    have near : decade num den - 16 ≤ decade num den - count := by omega
    have whole := (Nat.div_lt_iff_lt_mul (scaleDown_pos (by norm_num) hd num _)).mpr
      (scaled_lt hn hd near)
    exact searched _ (by rw [Option.getD_some]; omega) (by rw [Option.getD_some]; omega)
      (by rw [Option.getD_some]; omega)

/-- The decade of a binary number is not far from zero. -/
theorem decade_bounds {m : Nat} {q : Int} (hn : 0 < num) (hd : 0 < den) (positive : 0 < m)
    (canonical : IsCanonical m q) (same : (num : ℚ) / den = m * 2 ^ q) :
    -1075 ≤ decade num den ∧ decade num den ≤ 1024 := by
  obtain ⟨fits, least, most, -⟩ := canonical
  obtain ⟨low, high⟩ := decade_spec hn hd
  have two : (1 : ℚ) ≤ 2 := by norm_num
  have one : (1 : ℚ) ≤ m := by exact_mod_cast positive
  have bits : (m : ℚ) ≤ 2 ^ 53 := by exact_mod_cast fits.le
  have small : (10 : ℚ) ^ (-1074 : Int) < 10 ^ (decade num den + 1) := by
    calc (10 : ℚ) ^ (-1074 : Int) = (10 ^ 1074)⁻¹ := by rw [zpow_neg, zpow_ofNat]
      _ ≤ (2 ^ 1074)⁻¹ := by gcongr; norm_num
      _ = 1 * 2 ^ (-1074 : Int) := by rw [one_mul, zpow_neg, zpow_ofNat]
      _ ≤ m * 2 ^ q := by gcongr
      _ < 10 ^ (decade num den + 1) := same ▸ high
  have large : (10 : ℚ) ^ decade num den ≤ 10 ^ (1024 : Int) := by
    calc (10 : ℚ) ^ decade num den ≤ m * 2 ^ q := same ▸ low
      _ ≤ 2 ^ 53 * 2 ^ (971 : Int) := by gcongr
      _ = 2 ^ 1024 := (pow_add 2 53 971).symm
      _ ≤ 10 ^ 1024 := by gcongr; norm_num
  have := (zpow_lt_zpow_iff_right₀ (by norm_num : (1 : ℚ) < 10)).mp small
  have := (zpow_le_zpow_iff_right₀ (by norm_num : (1 : ℚ) < 10)).mp large
  omega

end Bounds

end Scientific

end OrcRows
