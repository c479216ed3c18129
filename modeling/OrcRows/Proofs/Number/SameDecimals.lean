import OrcRows.Proofs.Number.Rescale

/-!
# Decimals of the same number

Two decimals are compared by the places of their leading digits and by their coefficients at the
lesser of the two exponents. That decides whether they are the same number with the same sign, zeros
being the same number under either sign. Rescaling a decimal to a unit that it is a whole number of
keeps its number, so decimals that are rescaled to one such unit stay the same or stay different.
-/

namespace OrcRows

open Rounding

namespace Decimal

/-- Each zero behind the digits of a positive natural is one digit more. -/
theorem digitCount_mul_pow {n : Nat} (positive : 0 < n) (zeros : Nat) :
    digitCount (n * 10 ^ zeros) = digitCount n + zeros := by
  induction zeros with
  | zero => rw [pow_zero, Nat.mul_one, Nat.add_zero]
  | succ zeros ih =>
    have tens : n * 10 ^ (zeros + 1) / 10 = n * 10 ^ zeros := by
      rw [pow_succ, ← Nat.mul_assoc, Nat.mul_div_cancel _ (by norm_num)]
    have large : ¬ n * 10 ^ (zeros + 1) < 10 := by
      have := Nat.mul_pos positive (Nat.pow_pos (show 0 < 10 by norm_num) : 0 < 10 ^ zeros)
      rw [pow_succ, ← Nat.mul_assoc]
      omega
    rw [digitCount, if_neg large, tens, ih, Nat.add_assoc]

variable {negative negative' : Bool} {coefficient coefficient' : Nat} {exponent exponent' : Int}

/-- A coefficient at the greater of two exponents has the number of that coefficient at the lesser
one with as many zeros more. -/
theorem value_eq_iff_of_le (le : exponent ≤ exponent') :
    (coefficient : ℚ) * 10 ^ exponent = coefficient' * 10 ^ exponent' ↔
      coefficient = coefficient' * 10 ^ (exponent' - exponent).toNat := by
  obtain ⟨zeros, hzeros⟩ := Int.le.dest le
  have unit : (10 : ℚ) ^ exponent ≠ 0 := by positivity
  rw [← hzeros, add_sub_cancel_left, Int.toNat_natCast, zpow_add₀ (by norm_num), zpow_natCast,
    mul_comm ((10 : ℚ) ^ exponent), ← mul_assoc, mul_left_inj' unit]
  exact_mod_cast Iff.rfl

/-- Decimals of the same number have their leading digits at the same place. -/
theorem leading_eq (positive : 0 < coefficient) (positive' : 0 < coefficient')
    (same : (coefficient : ℚ) * 10 ^ exponent = coefficient' * 10 ^ exponent') :
    exponent + digitCount coefficient = exponent' + digitCount coefficient' := by
  rcases le_total exponent exponent' with le | le
  · rw [(value_eq_iff_of_le le).mp same, digitCount_mul_pow positive']
    omega
  · rw [(value_eq_iff_of_le le).mp same.symm, digitCount_mul_pow positive]
    omega

/-- Finite decimals are the same exactly if their numbers are, and their signs unless they are
zeros. -/
theorem sameNumber_finite_iff :
    sameNumber (.finite negative coefficient exponent) (.finite negative' coefficient' exponent') =
        true ↔
      (coefficient : ℚ) * 10 ^ exponent = coefficient' * 10 ^ exponent' ∧
        (coefficient = 0 ∨ negative = negative') := by
  have unit : (10 : ℚ) ^ exponent ≠ 0 := by positivity
  have unit' : (10 : ℚ) ^ exponent' ≠ 0 := by positivity
  rw [sameNumber]
  by_cases zero : coefficient = 0
  · subst zero
    rw [if_pos (.inl rfl), beq_iff_eq, Nat.cast_zero, zero_mul, zero_eq_mul]
    simp only [unit', or_false, true_or, and_true, Nat.cast_eq_zero]
    exact eq_comm
  by_cases zero' : coefficient' = 0
  · subst zero'
    rw [if_pos (.inr rfl), beq_iff_eq, Nat.cast_zero, zero_mul, mul_eq_zero]
    simp only [unit, zero, or_false, false_and, Nat.cast_eq_zero]
  rw [if_neg (by simp [zero, zero'])]
  simp only [Bool.and_eq_true, beq_iff_eq, zero, false_or]
  constructor
  · rintro ⟨⟨sign, -⟩, digits⟩
    refine ⟨?_, sign⟩
    rcases le_total exponent exponent' with le | le
    · rw [value_eq_iff_of_le le]
      simpa [Int.toNat_of_nonpos (sub_nonpos.mpr le)] using digits
    · rw [eq_comm, value_eq_iff_of_le le]
      simpa [Int.toNat_of_nonpos (sub_nonpos.mpr le)] using digits.symm
  · rintro ⟨same, sign⟩
    refine ⟨⟨sign, leading_eq (Nat.pos_of_ne_zero zero) (Nat.pos_of_ne_zero zero') same⟩, ?_⟩
    rcases le_total exponent exponent' with le | le
    · simpa [Int.toNat_of_nonpos (sub_nonpos.mpr le)] using (value_eq_iff_of_le le).mp same
    · have units := (value_eq_iff_of_le le).mp same.symm
      simpa [Int.toNat_of_nonpos (sub_nonpos.mpr le)] using units.symm

/-- A finite decimal that is a whole number of units of a last place. -/
def IsWholeAt (unit : Int) : Decimal → Prop
  | .finite _ coefficient exponent =>
    ∃ units : Nat, (coefficient : ℚ) * 10 ^ exponent = units * 10 ^ unit
  | _ => False

/-- A decimal that is rescaled to a unit that it is a whole number of keeps its sign and its
number. -/
theorem rescale?_of_isWholeAt {limit : Nat} {unit : Int} {result : Decimal}
    (whole : IsWholeAt unit (.finite negative coefficient exponent))
    (done : rescale? limit unit (.finite negative coefficient exponent) = some result) :
    ∃ units : Nat, result = .finite negative units unit ∧
      (coefficient : ℚ) * 10 ^ exponent = units * 10 ^ unit := by
  obtain ⟨units, value⟩ := whole
  have shifted := shiftCoefficient_of_value value
  simp only [rescale?] at done
  split at done
  · cases done
  · split at done
    case isTrue zero =>
      cases done
      exact ⟨0, rfl, by rw [zero, Nat.cast_zero, zero_mul, zero_mul]⟩
    case isFalse =>
      split at done
      · cases done
      · split at done
        · cases done
        · cases done
          exact ⟨units, by rw [shifted], value⟩

/-- Decimals that are rescaled to a unit that both are whole numbers of stay the same or stay
different. -/
theorem sameNumber_rescale? {x y x' y' : Decimal} {limit : Nat} {unit : Int}
    (whole : x.IsWholeAt unit) (whole' : y.IsWholeAt unit)
    (done : x.rescale? limit unit = some x') (done' : y.rescale? limit unit = some y') :
    x'.sameNumber y' = x.sameNumber y := by
  cases x with
  | infinite | nan => exact whole.elim
  | finite negative coefficient exponent =>
    cases y with
    | infinite | nan => exact whole'.elim
    | finite negative' coefficient' exponent' =>
      obtain ⟨units, rfl, value⟩ := rescale?_of_isWholeAt whole done
      obtain ⟨units', rfl, value'⟩ := rescale?_of_isWholeAt whole' done'
      have power : (10 : ℚ) ^ unit ≠ 0 := by positivity
      have power' : (10 : ℚ) ^ exponent ≠ 0 := by positivity
      have zero : units = 0 ↔ coefficient = 0 := by
        have : (units : ℚ) * 10 ^ unit = 0 ↔ (coefficient : ℚ) * 10 ^ exponent = 0 := by rw [value]
        simpa [power, power'] using this
      rw [Bool.eq_iff_iff, sameNumber_finite_iff, sameNumber_finite_iff, value, value', zero]

end Decimal

end OrcRows
