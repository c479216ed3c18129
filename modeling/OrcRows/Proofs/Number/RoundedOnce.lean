import OrcRows.Proofs.Number.RoundedTwice
import OrcRows.Proofs.Number.SingleReading

/-!
# The text of a 32-bit number rounded at once

The text of a 32-bit number is read by way of a 64-bit one, and so it is the number that its decimal
is rounded to twice. Rounded to 32 bits at once, the decimal is the number too, unless the 64-bit
number lies halfway between two neighbours.
-/

namespace OrcRows

open Rounding

namespace Binary64

open BinaryFormat

/-- What the text of a 32-bit number shows is a decimal to which the number is the nearest one of 32
bits, unless the 64-bit number that is nearest to the decimal lies halfway between two neighbours
and is not the decimal. -/
theorem singleText_rounded_once {x : Binary64} (finite : x.isFinite = true)
    (single : x.IsSingle) :
    ∃ (number : ℚ) (negative : Bool) (decimal : Scientific), x.toRat? = some number ∧
      Decimal.ofText? x.singleText =
        some (.finite negative decimal.digits decimal.exponent) ∧
      (BinaryFormat.single.IsNearest (signed negative decimal.value) number ∨
        ∃ wide, double.IsNearest decimal.value wide ∧ wide ≠ decimal.value ∧
          BinaryFormat.single.IsHalfway wide) := by
  cases x with
  | nan => contradiction
  | infinite negative => contradiction
  | finite negative m q canonical =>
    obtain ⟨count, _, _, back, shown⟩ := exists_trial rfl single
    cases trial : (Binary64.finite negative m q canonical).toDigits count with
    | nan =>
      rw [trial] at back
      cases back
    | infinite other =>
      rw [trial] at back
      cases back
    | finite other m' q' canonical' =>
      obtain ⟨text, rounded, written, numeral, wide⟩ := @exists_numeral_text other m' q' canonical'
      obtain ⟨coefficient, exponent, value, read⟩ := numeral.ofText?_signed other
      rw [trial] at back shown
      rw [← wide] at back
      obtain ⟨rfl, twice⟩ := (toSingle_toBinary64_iff single rounded).mp back
      have same : (Scientific.mk coefficient exponent).value = rounded.value := value
      have nonneg : 0 ≤ rounded.value := by
        rw [Scientific.value]
        positivity
      have told : Decimal.ofText? (Binary64.finite other m q canonical).singleText =
          some (.finite other coefficient exponent) := by
        rw [shown, written]
        exact read
      refine ⟨_, other, ⟨coefficient, exponent⟩, toRat?_finite, told, ?_⟩
      rw [same]
      rcases round_single_double nonneg with once | ⟨apart, halfway⟩
      · left
        rw [← twice, reread, once]
        exact isNearest_signed (isNearest_round (by decide) nonneg) other
      · exact .inr ⟨_, isNearest_round (by decide) nonneg, apart, halfway⟩

/-- The decimal in this text is nearer to the neighbour below the number. -/
example :
    (Binary64.finite false (11420670 * 2 ^ 29) (-136) (by decide)).singleText = "7.038531e-26" ∧
      BinaryFormat.single.nearest 7038531 (10 ^ 32) = (11420669, -107) := by
  decide +kernel

end Binary64

end OrcRows
