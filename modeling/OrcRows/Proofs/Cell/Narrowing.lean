import Mathlib.Data.Int.ModEq
import OrcRows.Proofs.Cell.WholeNumbers

/-!
# Integers narrowed to the bits of their category

A file may store more bits of an integer than its category has. Masking and testing the highest bit
that is left make the two's complement number of the lowest bits: the one integer of so many bits
that is congruent to what is stored. An integer that has no more bits than its category is read as
it is, and integers that differ in higher bits only are read alike.
-/

namespace OrcRows

/-- Wrapping ends at an integer that is congruent to the value. -/
theorem wrap_modEq (bits : Nat) (value : Int) : wrap bits value ≡ value [ZMOD 2 ^ bits] := by
  have same := wrap_emod bits value
  rw [Nat.pow_eq] at same
  push_cast at same
  exact same

/-- Congruent integers of as many bits as the modulus are equal. -/
theorem FitsBits.eq_of_modEq {bits : Nat} {first second : Int} (hb : 0 < bits)
    (h : FitsBits bits first) (h' : FitsBits bits second)
    (congruent : first ≡ second [ZMOD 2 ^ bits]) : first = second := by
  have modulus : (2 : Int) * 2 ^ (bits - 1) = 2 ^ bits := mul_pow_sub_one hb.ne' 2
  obtain ⟨least, most⟩ := h
  obtain ⟨least', most'⟩ := h'
  -- Both lie in one half-open range that is as long as the modulus.
  have close : |second - first| < 2 ^ bits := by
    rw [abs_lt]
    constructor <;> omega
  have zero := Int.eq_zero_of_abs_lt_dvd congruent.dvd close
  omega

/-- Wrapping ends at the only integer of its bits that is congruent to the value. -/
theorem wrap_eq_iff {bits : Nat} {value narrow : Int} (hb : 0 < bits) :
    wrap bits value = narrow ↔ FitsBits bits narrow ∧ narrow ≡ value [ZMOD 2 ^ bits] := by
  constructor
  · rintro rfl
    exact ⟨fitsBits_wrap hb value, wrap_modEq bits value⟩
  · rintro ⟨fits, congruent⟩
    exact (fitsBits_wrap hb value).eq_of_modEq hb fits
      ((wrap_modEq bits value).trans congruent.symm)

/-- Values that are congruent are wrapped to one integer. -/
theorem wrap_congr {bits : Nat} {value value' : Int} (hb : 0 < bits)
    (congruent : value' ≡ value [ZMOD 2 ^ bits]) : wrap bits value' = wrap bits value :=
  (wrap_eq_iff hb).mpr ⟨fitsBits_wrap hb value, (wrap_modEq bits value).trans congruent.symm⟩

/-- An integer of a category of fewer than 64 bits is read as its lowest bits. -/
theorem longValue_eq_wrap {category : Category} {bits : Nat}
    (whole : category.bits? = some bits) (narrow : bits < 64) (value : Int) :
    longValue category value = .ok (.int (wrap bits value)) ∧ 0 < bits := by
  cases category <;> simp only [Category.bits?, Option.some.injEq, reduceCtorEq] at whole <;>
    subst whole
  · exact ⟨rfl, by norm_num⟩
  · exact ⟨rfl, by norm_num⟩
  · exact ⟨rfl, by norm_num⟩
  · exact absurd narrow (lt_irrefl 64)

namespace ColumnVector

variable {policy : TextPolicy} {declared : NativeType} {unified : Option UnifiedType}
  {bits : Nat} {flags flags' : RowFlags} {values values' : List Int} {row row' value value' : Int}

/-- A cell of a category of fewer than 64 bits shows the lowest bits of what is stored. -/
theorem cell_eq_present_wrap (whole : declared.category.bits? = some bits) (narrow : bits < 64)
    (there : flags.nullAt row = .ok false)
    (found : Position.get? values (flags.index row) = some value) :
    (leaf flags (.long values)).cell policy declared unified row =
      (Value.int (wrap bits value)).present policy declared.category unified := by
  rw [cell_leaf there, leafCell]
  simp only [LeafCells.value, found, Outcome.ofOption_some, Outcome.ok_bind,
    (longValue_eq_wrap whole narrow value).1]

/-- Stored integers that agree in the lowest bits, which are those of their category, are read
alike. -/
theorem cell_congr_of_modEq (whole : declared.category.bits? = some bits) (narrow : bits < 64)
    (there : flags.nullAt row = .ok false)
    (found : Position.get? values (flags.index row) = some value)
    (there' : flags'.nullAt row' = .ok false)
    (found' : Position.get? values' (flags'.index row') = some value')
    (congruent : value' ≡ value [ZMOD 2 ^ bits]) :
    (leaf flags' (.long values')).cell policy declared unified row' =
      (leaf flags (.long values)).cell policy declared unified row := by
  have hb := (longValue_eq_wrap whole narrow value).2
  rw [cell_eq_present_wrap whole narrow there' found',
    cell_eq_present_wrap whole narrow there found, wrap_congr hb congruent]

/-- Wrapping ends at the one integer of its bits that is congruent to the value. So an integer that
fits the 8, 16 or 32 bits of its category is read as it is, under the type of its column if there is
one, and whatever else is stored for it is read alike if it agrees with it modulo the power of
two. -/
theorem cell_of_twos_complement :
    (∀ (bits : Nat) (value narrow : Int), 0 < bits →
      (wrap bits value = narrow ↔ FitsBits bits narrow ∧ narrow ≡ value [ZMOD 2 ^ bits])) ∧
    ∀ (policy : TextPolicy) (declared : NativeType) (unified : Option UnifiedType) (bits : Nat)
      (flags : RowFlags) (values : List Int) (row value : Int),
      declared.category.bits? = some bits → bits < 64 → flags.nullAt row = .ok false →
      Position.get? values (flags.index row) = some value →
      (FitsBits bits value →
        (leaf flags (.long values)).cell policy declared none row = .ok (.int value) ∧
        (leaf flags (.long values)).cell policy declared unified row =
          (Value.int value).present policy declared.category unified) ∧
      ∀ (flags' : RowFlags) (values' : List Int) (row' value' : Int),
        flags'.nullAt row' = .ok false →
        Position.get? values' (flags'.index row') = some value' →
        value' ≡ value [ZMOD 2 ^ bits] →
        (leaf flags' (.long values')).cell policy declared unified row' =
          (leaf flags (.long values)).cell policy declared unified row := by
  refine ⟨fun bits value narrow => wrap_eq_iff, ?_⟩
  intro policy declared unified bits flags values row value whole narrow there found
  have hb := (longValue_eq_wrap whole narrow value).2
  constructor
  · intro fits
    have unchanged := wrap_of_fitsBits hb fits
    constructor
    · rw [cell_eq_present_wrap whole narrow there found, unchanged, Value.present]
    · rw [cell_eq_present_wrap whole narrow there found, unchanged]
  · intro flags' values' row' value' there' found' congruent
    exact cell_congr_of_modEq whole narrow there found there' found' congruent

/-- At the border of eight bits: 128 is wrapped to the least integer, 127 is read as it is, and -129
is read like 127. -/
theorem cell_of_twos_complement_tinyint :
    wrap 8 128 = -128 ∧
    (leaf ⟨[], true, false⟩ (.long [127, -129])).cell .standard (.primitive .tinyint) none 0 =
      .ok (.int 127) ∧
    (leaf ⟨[], true, false⟩ (.long [127, -129])).cell .standard (.primitive .tinyint) none 1 =
      (leaf ⟨[], true, false⟩ (.long [127, -129])).cell .standard (.primitive .tinyint) none 0 := by
  obtain ⟨unique, read⟩ := cell_of_twos_complement
  obtain ⟨unchanged, alike⟩ := read .standard (.primitive .tinyint) none 8 ⟨[], true, false⟩
    [127, -129] 0 127 rfl (by decide) rfl rfl
  have fits : FitsBits 8 127 := ⟨by decide, by decide⟩
  have least : FitsBits 8 (-128) := ⟨by decide, by decide⟩
  exact ⟨(unique 8 128 (-128) (by decide)).mpr ⟨least, by decide⟩, (unchanged fits).1,
    alike ⟨[], true, false⟩ [127, -129] 1 (-129) rfl rfl (by decide)⟩

end ColumnVector

end OrcRows
