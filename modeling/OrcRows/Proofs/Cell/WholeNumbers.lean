import OrcRows.Proofs.Cell.Inhabits
import OrcRows.Proofs.Cell.Steps
import OrcRows.Proofs.Number.RoundedData

/-!
# Integers under the types of floating-point numbers

An integer column may be given a floating-point type, and then shows the nearest 64-bit numbers of
its integers, or what is left of these after narrowing to 32 bits. That is the nearest 32-bit number
too, except for an integer whose nearest 64-bit number is another number and lies halfway between
two neighbouring 32-bit numbers. Integers with up to 53 bits are 64-bit numbers themselves.
-/

namespace OrcRows

open BinaryFormat

/-- The number of bits of the integers of a category. -/
def Category.bits? : Category → Option Nat
  | tinyint => some 8
  | smallint => some 16
  | int => some 32
  | bigint => some 64
  | _ => none

/-- An integer in the range of its category is stored as it is. -/
theorem longValue_of_fitsBits {category : Category} {bits : Nat} {value : Int}
    (whole : category.bits? = some bits) (fits : FitsBits bits value) :
    longValue category value = .ok (.int value) ∧ value.natAbs ≤ 2 ^ 63 := by
  obtain ⟨least, most⟩ := fits
  cases category <;> simp only [Category.bits?, Option.some.injEq, reduceCtorEq] at whole <;>
    subst whole <;> refine ⟨?_, by omega⟩
  · rw [longValue, wrap_of_fitsBits (by norm_num) ⟨least, most⟩]
  · rw [longValue, wrap_of_fitsBits (by norm_num) ⟨least, most⟩]
  · rw [longValue, wrap_of_fitsBits (by norm_num) ⟨least, most⟩]
  · rfl

/-- A format holds the integers that have no more bits than its significands. -/
theorem BinaryFormat.holds_of_fitsBits {format : BinaryFormat} {bits : Nat} {value : Int}
    (least : format.minExponent ≤ 0) (most : 0 ≤ format.maxExponent)
    (few : bits ≤ format.precision) (some : 0 < format.precision) (fits : FitsBits bits value) :
    format.Holds value.natAbs := by
  have bound : value.natAbs ≤ 2 ^ (bits - 1) := by
    obtain ⟨low, high⟩ := fits
    have : (value.natAbs : Int) ≤ (2 ^ (bits - 1) : Nat) := by
      push_cast
      exact abs_le.mpr ⟨low, high.le⟩
    exact_mod_cast this
  refine ⟨value.natAbs, 0, bound.trans_lt ?_, least, most, by rw [zpow_zero, mul_one]⟩
  exact Nat.pow_lt_pow_right (by norm_num) (by omega)

namespace Binary64

/-- A natural with the sign of its integer is the integer. -/
theorem signed_natAbs (value : Int) : signed (decide (value < 0)) value.natAbs = value := by
  rw [signed]
  split_ifs with negative
  · have below : value < 0 := of_decide_eq_true negative
    have : (value.natAbs : Int) = -value := by omega
    rw [← Int.cast_natCast, this]
    push_cast
    ring
  · have above : 0 ≤ value := not_lt.mp fun below => negative (decide_eq_true below)
    have : (value.natAbs : Int) = value := by omega
    rw [← Int.cast_natCast, this]

/-- Signed magnitudes are equal if the magnitudes are. -/
@[simp] theorem signed_inj {negative : Bool} {first second : ℚ} :
    signed negative first = signed negative second ↔ first = second := by
  cases negative <;> simp [signed]

/-- An integer of at most 64 bits becomes the nearest 64-bit number, and that becomes the nearest
32-bit number to it. -/
theorem exists_ofInt {value : Int} (bounded : value.natAbs ≤ 2 ^ 63) :
    ∃ x, ofInt? value = some x ∧
      x.toRat? = some (signed (decide (value < 0)) (double.round value.natAbs)) ∧
      x.toSingle.toRat? =
        some (signed (decide (value < 0)) (single.round (double.round value.natAbs))) := by
  have least : (0 : ℚ) ≤ value.natAbs := by positivity
  have most : (value.natAbs : ℚ) ≤ 2 ^ (63 : Int) := by exact_mod_cast bounded
  have wide : double.round value.natAbs ≤ 2 ^ (63 : Int) :=
    round_le_pow (by decide) (by decide) least most
  have narrow : single.round (double.round value.natAbs) ≤ 2 ^ (63 : Int) :=
    round_le_pow (by decide) (by decide) (round_nonneg double _) wide
  have small : (2 : ℚ) ^ (63 : Int) < single.limit :=
    zpow_lt_zpow_right₀ (by norm_num) (by decide)
  have small' : (2 : ℚ) ^ (63 : Int) < double.limit :=
    zpow_lt_zpow_right₀ (by norm_num) (by decide)
  have ratio : (value.natAbs : ℚ) / (1 : Nat) = value.natAbs := by rw [Nat.cast_one, div_one]
  obtain ⟨m, q, canonical, read, same⟩ := exists_ofRatio (decide (value < 0)) Nat.one_pos
    (show double.round ((value.natAbs : ℚ) / (1 : Nat)) < double.limit by
      rw [ratio]
      exact wide.trans_lt small')
  rw [ratio] at same
  have range : single.round (valueOf (m, q)) < single.limit := by
    rw [same]
    exact narrow.trans_lt small
  obtain ⟨m', q', canonical', narrowed, same'⟩ :=
    exists_toSingle (decide (value < 0)) canonical range
  rw [same] at same'
  refine ⟨_, by rw [ofInt?, read], ?_, ?_⟩
  · rw [toRat?_finite, same]
  · rw [narrowed, toRat?_finite, same']

/-- An integer that the 64-bit format holds becomes its own number, which stays what it is if it is
narrowed if the 32-bit format holds it too. -/
theorem exists_ofInt_of_holds {value : Int} (held : double.Holds value.natAbs) :
    ∃ x, ofInt? value = some x ∧ x.toRat? = some (value : ℚ) ∧
      (single.Holds value.natAbs → x.toSingle = x) := by
  have unit : (value.natAbs : ℚ) * 2 ^ (0 : Int) = value.natAbs := by rw [zpow_zero, mul_one]
  obtain ⟨m, q, canonical, read, same⟩ :=
    ofScientific_of_holds (decide (value < 0)) value.natAbs 0 (by rwa [unit])
  have ratio : ofRatio (decide (value < 0)) value.natAbs 1 =
      .finite (decide (value < 0)) m q canonical := by
    rw [← read, ofScientific]
    simp [Rounding.ratioOf]
  rw [unit] at same
  refine ⟨_, by rw [ofInt?, ratio], ?_, fun few => toSingle_of_isSingle ?_⟩
  · rw [toRat?_finite, valueOf, same, signed_natAbs]
  · rw [IsSingle, same]
    exact few

end Binary64

namespace ColumnVector

variable {policy : TextPolicy} {flags : RowFlags} {values : List Int} {declared : NativeType}
  {row value : Int} {bits : Nat}

/-- A cell of an integer column under a floating-point type is read from its integer. -/
theorem cell_of_fitsBits (whole : declared.category.bits? = some bits)
    (there : flags.nullAt row = .ok false)
    (found : Position.get? values (flags.index row) = some value) (fits : FitsBits bits value)
    (unified : UnifiedType) :
    (leaf flags (.long values)).cell policy declared (some unified) row =
      (Value.int value).present policy declared.category (some unified) := by
  rw [cell_leaf there, leafCell]
  simp only [LeafCells.value, found, Outcome.ofOption_some, Outcome.ok_bind,
    (longValue_of_fitsBits whole fits).1]

/-- An integer in the range of its category is shown under a type of 64-bit numbers as the nearest
one to it. Under a type of 32-bit numbers it is shown as the nearest one to that 64-bit number,
which is the nearest one to the integer too, unless the 64-bit number is not the integer and lies
halfway between two neighbours. Integers of up to 53 bits are shown as the nearest numbers. -/
theorem cell_of_whole_number (whole : declared.category.bits? = some bits)
    (there : flags.nullAt row = .ok false)
    (found : Position.get? values (flags.index row) = some value) (fits : FitsBits bits value) :
    (∃ x wide, (leaf flags (.long values)).cell policy declared (some (.basic .double)) row =
        .ok (.float x) ∧
      x.toRat? = some wide ∧ double.IsNearest value wide) ∧
    ∃ x number wide, (leaf flags (.long values)).cell policy declared (some (.basic .float)) row =
        .ok (.float x) ∧
      x.IsSingle ∧ x.toRat? = some number ∧ double.IsNearest value wide ∧
      single.IsNearest wide number ∧
      (single.IsNearest value number ∨ (wide ≠ value ∧ single.IsHalfway |wide|)) ∧
      (value.natAbs ≤ 2 ^ 53 → single.IsNearest value number) := by
  obtain ⟨x, read, wideValue, narrowValue⟩ :=
    Binary64.exists_ofInt (longValue_of_fitsBits whole fits).2
  set negative := decide (value < 0) with hnegative
  have least : (0 : ℚ) ≤ value.natAbs := by positivity
  have same : Binary64.signed negative value.natAbs = value := Binary64.signed_natAbs value
  have wideNearest : double.IsNearest value (Binary64.signed negative
      (double.round value.natAbs)) := by
    rw [← same]
    exact Binary64.isNearest_signed (isNearest_round (by decide) least) negative
  have narrowNearest : single.IsNearest (Binary64.signed negative (double.round value.natAbs))
      (Binary64.signed negative (single.round (double.round value.natAbs))) :=
    Binary64.isNearest_signed (isNearest_round (by decide) (round_nonneg double _)) negative
  have directly (once : single.round (double.round value.natAbs) = single.round value.natAbs) :
      single.IsNearest value (Binary64.signed negative
        (single.round (double.round value.natAbs))) := by
    rw [once, ← same]
    exact Binary64.isNearest_signed (isNearest_round (by decide) least) negative
  refine ⟨⟨x, _, ?_, wideValue, wideNearest⟩, x.toSingle, _, _, ?_, Binary64.isSingle_toSingle x,
    narrowValue, wideNearest, narrowNearest, ?_, ?_⟩
  · rw [cell_of_fitsBits whole there found fits]
    simp only [Value.present, UnifiedType.tag, Value.toFloating, read]
    rfl
  · rw [cell_of_fitsBits whole there found fits]
    simp only [Value.present, UnifiedType.tag, Value.toFloating, read]
    rfl
  · rcases round_single_double least with once | ⟨moved, halfway⟩
    · exact .inl (directly once)
    · refine .inr ⟨?_, ?_⟩
      · rw [← same, ne_eq, Binary64.signed_inj]
        exact moved
      · rwa [Binary64.abs_signed, abs_of_nonneg (round_nonneg double _)]
  · intro few
    apply directly
    rw [round_of_represents (by decide) (represents_natCast (by decide) (by decide) few)]

/-- The nearest 64-bit number to this integer lies halfway between two neighbouring 32-bit numbers,
and the one that it is narrowed to is not the nearest to the integer. -/
theorem long_not_nearest :
    ∃ x, (leaf ⟨[], true, false⟩ (.long [2 ^ 60 + 2 ^ 36 + 1])).cell .standard (.primitive .bigint)
        (some (.basic .float)) 0 = .ok (.float x) ∧
      x.toRat? = some (2 ^ 60) ∧
      ¬ single.IsNearest ((2 ^ 60 + 2 ^ 36 + 1 : Int) : ℚ) (2 ^ 60) := by
  refine ⟨.finite false (2 ^ 52) 8 (by decide), ?_, ?_, ?_⟩
  · have whole : FitsBits 64 (2 ^ 60 + 2 ^ 36 + 1) := by
      constructor <;> norm_num
    have read : Binary64.ofInt? (2 ^ 60 + 2 ^ 36 + 1) =
        some (.finite false (2 ^ 52 + 2 ^ 28) 8 (by decide)) := by
      decide +kernel
    have narrowed : (Binary64.finite false (2 ^ 52 + 2 ^ 28) 8 (by decide)).toSingle =
        .finite false (2 ^ 52) 8 (by decide) := by
      decide +kernel
    rw [cell_of_fitsBits rfl rfl rfl whole]
    simp only [Value.present, UnifiedType.tag, Value.toFloating, read, Outcome.ofOption_some,
      Outcome.ok_bind, if_true, narrowed]
    rfl
  · decide +kernel
  · intro nearest
    have held : single.Represents |(2 ^ 60 + 2 ^ 37 : ℚ)| :=
      ⟨(2 ^ 23 + 1, 37), by decide, by decide, by norm_num [valueOf]⟩
    have nearer := nearest.2 _ held (by norm_num)
    norm_num [abs_of_pos, abs_of_neg] at nearer

/-- The conditions are met by an integer of 36 bits in a repeating column. -/
theorem cell_of_whole_number_repeating :
    (NativeType.primitive .bigint).category.bits? = some 64 ∧
      RowFlags.nullAt ⟨[], true, true⟩ 7 = .ok false ∧
      Position.get? [68719476737] (RowFlags.index ⟨[], true, true⟩ 7) = some 68719476737 ∧
      FitsBits 64 68719476737 ∧
      ((∃ x wide, (leaf ⟨[], true, true⟩ (.long [68719476737])).cell .standard
          (.primitive .bigint) (some (.basic .double)) 7 = .ok (.float x) ∧
        x.toRat? = some wide ∧ double.IsNearest (68719476737 : Int) wide) ∧
      ∃ x number wide, (leaf ⟨[], true, true⟩ (.long [68719476737])).cell .standard
          (.primitive .bigint) (some (.basic .float)) 7 = .ok (.float x) ∧
        x.IsSingle ∧ x.toRat? = some number ∧ double.IsNearest (68719476737 : Int) wide ∧
        single.IsNearest wide number ∧
        (single.IsNearest (68719476737 : Int) number ∨
          (wide ≠ (68719476737 : Int) ∧ single.IsHalfway |wide|)) ∧
        ((68719476737 : Int).natAbs ≤ 2 ^ 53 →
          single.IsNearest (68719476737 : Int) number)) := by
  have fits : FitsBits 64 68719476737 := by
    constructor <;> norm_num
  exact ⟨rfl, rfl, rfl, fits, cell_of_whole_number rfl rfl rfl fits⟩

end ColumnVector

end OrcRows
