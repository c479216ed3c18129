import OrcRows.Proofs.Cell.Steps
import OrcRows.Proofs.Mapping
import OrcRows.Proofs.Number.Rescale

/-!
# Decimal cells are exact

A decimal column may be given its own type or a wider one, and its cells get the scale of the type
they are given. A stored decimal that the declared precision and scale have room for keeps its sign
and its value on the way: nothing is cut off, and there is always a result.
-/

namespace OrcRows

namespace Decimal

/-- A decimal fits a precision and a scale if it has no more decimal places than the scale, and no
more integer digits than the scale leaves. -/
theorem fits_of_lt {precision scale : Int} {negative : Bool} {coefficient : Nat} {exponent : Int}
    (least : 0 ≤ scale) (most : scale ≤ precision) (places : -scale ≤ exponent)
    (small : (coefficient : ℚ) * 10 ^ exponent < 10 ^ (precision - scale)) :
    Fits precision scale (.finite negative coefficient exponent) := by
  have ten : (10 : ℚ) ≠ 0 := by norm_num
  obtain ⟨coarser, hcoarser⟩ := Int.le.dest places
  have value : (coefficient : ℚ) * 10 ^ exponent =
      (coefficient * 10 ^ coarser : Nat) * 10 ^ (-scale) := by
    rw [← hcoarser, zpow_add₀ ten, zpow_natCast]
    push_cast
    ring
  have power : (10 : ℚ) ^ (precision - scale) = 10 ^ precision.toNat * 10 ^ (-scale) := by
    rw [← zpow_natCast, ← zpow_add₀ ten, Int.toNat_of_nonneg (least.trans most), sub_eq_add_neg]
  refine ⟨coefficient * 10 ^ coarser, ?_, value⟩
  rw [value, power] at small
  exact_mod_cast lt_of_mul_lt_mul_right small (by positivity)

end Decimal

namespace ColumnVector

/-- A decimal with no more decimal places than the declared scale and no more integer digits than
that leaves is read exactly under every decimal type that the column may be given: the cell has the
sign and the value of what is stored, the scale of the type, and no more digits than its
precision. -/
theorem cell_decimal_exact {policy : TextPolicy} {flags : RowFlags} {values : List Value}
    {row precision scale precision' scale' exponent : Int} {target : Option UnifiedType}
    {negative : Bool} {coefficient : Nat} (least : 0 ≤ scale) (most : scale ≤ precision)
    (given : (NativeType.decimal (some precision) (some scale)).unify target =
      .ok (.decimal (some precision') (some scale')))
    (bound : precision' ≤ Decimal.greatestPrecision) (places : -scale ≤ exponent)
    (small : (coefficient : ℚ) * 10 ^ exponent < 10 ^ (precision - scale))
    (there : flags.nullAt row = .ok false)
    (found : Position.get? values (flags.index row) =
      some (.decimal (.finite negative coefficient exponent))) :
    ∃ units : Nat,
      (leaf flags (.decimal values)).cell policy (.decimal (some precision) (some scale))
          (some (.decimal (some precision') (some scale'))) row =
        .ok (.decimal (.finite negative units (-scale'))) ∧
      (units : ℚ) * 10 ^ (-scale') = coefficient * 10 ^ exponent ∧
      units < 10 ^ precision'.toNat := by
  have fits : Decimal.Fits precision scale (.finite negative coefficient exponent) :=
    Decimal.fits_of_lt least most places small
  rcases UnifiedType.canConvert_decimal (NativeType.unify_decimal given) with
    text | ⟨_, _, same, finer, longer⟩
  · contradiction
  injection same with samePrecision sameScale
  cases samePrecision
  cases sameScale
  obtain ⟨units, few, value, scaled⟩ := Value.toScale_of_fits fits least most finer longer bound
  have stored : (LeafCells.decimal values).value policy .decimal
      (some (.decimal (some precision') (some scale'))) (flags.index row) =
        .ok (.decimal (.finite negative coefficient exponent)) := by
    simp only [LeafCells.value, found]
    rfl
  refine ⟨units, ?_, value.symm, few⟩
  rw [cell_leaf there, leafCell]
  change (LeafCells.decimal values).value policy .decimal _ _ >>= _ = _
  rw [stored, Outcome.ok_bind]
  exact scaled

/-- A price of minus one and a half under a wider type, in a repeating column of the type
`decimal(4,2)`. -/
theorem cell_decimal_exact_price :
    ∃ units : Nat,
      (leaf ⟨[], true, true⟩ (.decimal [.decimal (.finite true 15 (-1))])).cell .standard
          (.decimal (some 4) (some 2)) (some (.decimal (some 9) (some 5))) 7 =
        .ok (.decimal (.finite true units (-5))) ∧
      (units : ℚ) * 10 ^ (-5 : Int) = (15 : Nat) * 10 ^ (-1 : Int) ∧ units < 10 ^ (9 : Int).toNat :=
  cell_decimal_exact (by norm_num) (by norm_num)
    (show (NativeType.decimal (some 4) (some 2)).unify (some (.decimal (some 9) (some 5))) = _
      from rfl) (by decide) (by norm_num) (by norm_num) rfl rfl

end ColumnVector

end OrcRows
