import OrcRows.Mapping
import OrcRows.Proofs.Cell.Steps
import OrcRows.Proofs.Number.RoundedOnce

/-!
# Cells of 32-bit numbers under text

A column of 32-bit numbers may be given the type of text, and its cells are then the texts of its
numbers. Printing never fails, and from the text of a finite number the number is read back, by way
of a 64-bit number.
-/

namespace OrcRows

namespace ColumnVector

/-- A cell of 32-bit numbers under text is the text of the narrowed number. -/
theorem cell_float_text {policy : TextPolicy} {flags : RowFlags} {values : List Binary64}
    {row : Int} {stored : Binary64} (there : flags.nullAt row = .ok false)
    (found : Position.get? values (flags.index row) = some stored) :
    (leaf flags (.double values)).cell policy (.primitive .float) (some (.basic .string)) row =
      .ok (.text stored.toSingle.singleText) := by
  rw [cell_leaf there, leafCell]
  simp only [LeafCells.value, found]
  rfl

/-- Every finite number of the 32-bit format can be printed and read back. Its text shows at most
nine of its digits, and what is read from the text, first as a 64-bit number and from there narrowed
to 32 bits, is the number again. It also is the number nearest to the decimal in the text, unless
the 64-bit number lies halfway between two neighbours. A cell of 32-bit numbers under text is always
a text, and one that reads back if the narrowed number is finite. -/
theorem float_text_reads_back :
    (∀ x : Binary64, x.isFinite = true → x.IsSingle →
      (∃ count : Nat, 1 ≤ count ∧ count ≤ 9 ∧ x.singleText = (x.toDigits count).text) ∧
      (Binary64.ofText? x.singleText).map Binary64.toSingle = some x ∧
      ∃ (number : ℚ) (negative : Bool) (decimal : Scientific), x.toRat? = some number ∧
        Decimal.ofText? x.singleText =
          some (.finite negative decimal.digits decimal.exponent) ∧
        (BinaryFormat.single.IsNearest (Binary64.signed negative decimal.value) number ∨
          ∃ wide, BinaryFormat.double.IsNearest decimal.value wide ∧ wide ≠ decimal.value ∧
            BinaryFormat.single.IsHalfway wide)) ∧
    (NativeType.primitive .float).unify (some (.basic .string)) = .ok (.basic .string) ∧
    ∀ {policy : TextPolicy} {flags : RowFlags} {values : List Binary64} {row : Int}
      {stored : Binary64}, flags.nullAt row = .ok false →
      Position.get? values (flags.index row) = some stored →
      ∃ text, (leaf flags (.double values)).cell policy (.primitive .float)
          (some (.basic .string)) row = .ok (.text text) ∧
        (stored.toSingle.isFinite = true →
          (Binary64.ofText? text).map Binary64.toSingle = some stored.toSingle) := by
  refine ⟨?_, rfl, ?_⟩
  · intro x finite single
    obtain ⟨count, least, most, -, shown⟩ := Binary64.exists_trial finite single
    exact ⟨⟨count, least, most, shown⟩, Binary64.ofText?_singleText finite single,
      Binary64.singleText_rounded_once finite single⟩
  · intro policy flags values row stored there found
    refine ⟨_, cell_float_text there found, ?_⟩
    intro finite
    exact Binary64.ofText?_singleText finite (Binary64.isSingle_toSingle stored)

/-- The greatest number of the 32-bit format. -/
def greatestSingle : Binary64 := .finite false 9007198717870080 75 (by decide)

/-- Four digits of the greatest number are beyond the range of the format and come back as an
infinity, so more are shown. -/
example : (greatestSingle.toDigits 4).toSingle = .infinite false ∧
    greatestSingle.singleText = "3.4028235e+38" := by
  decide +kernel

/-- The greatest number, on its own and in a repeating column. -/
theorem float_text_reads_back_greatest :
    (greatestSingle.isFinite = true ∧ greatestSingle.IsSingle ∧
      (∃ count : Nat, 1 ≤ count ∧ count ≤ 9 ∧
        greatestSingle.singleText = (greatestSingle.toDigits count).text) ∧
      (Binary64.ofText? greatestSingle.singleText).map Binary64.toSingle = some greatestSingle) ∧
    ∃ text, (leaf ⟨[], true, true⟩ (.double [greatestSingle])).cell .standard (.primitive .float)
        (some (.basic .string)) 7 = .ok (.text text) ∧
      (greatestSingle.toSingle.isFinite = true →
        (Binary64.ofText? text).map Binary64.toSingle = some greatestSingle.toSingle) := by
  have single : greatestSingle.IsSingle :=
    ⟨16777215, 104, by norm_num [BinaryFormat.single], by decide, by decide, by norm_num⟩
  obtain ⟨shown, back, _⟩ := float_text_reads_back.1 greatestSingle rfl single
  exact ⟨⟨rfl, single, shown, back⟩, float_text_reads_back.2.2 rfl rfl⟩

end ColumnVector

end OrcRows
