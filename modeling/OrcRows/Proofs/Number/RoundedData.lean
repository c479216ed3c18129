import OrcRows.Proofs.Number.RoundedTwice

/-!
# The data that rounded numbers become

A rounded number becomes a finite datum if it lies below the limit of its format, and an infinity
otherwise. So what is read as a 64-bit number, and what is narrowed to 32 bits, is known from the
rational alone.
-/

namespace OrcRows

open Rounding

namespace BinaryFormat

/-- The least power of two that is too great for a format. -/
def limit (format : BinaryFormat) : ℚ := 2 ^ ((format.precision : Int) + format.maxExponent)

variable {format : BinaryFormat}

/-- An exponent is in range if the number lies below the limit. -/
theorem IsNormal.exponent_le_iff (hp : 2 ≤ format.precision)
    (hr : format.minExponent ≤ format.maxExponent) {parts : Nat × Int}
    (normal : format.IsNormal parts) :
    parts.2 ≤ format.maxExponent ↔ valueOf parts < format.limit := by
  have two : (2 : ℚ) ≠ 0 := by norm_num
  constructor
  · intro inside
    calc valueOf parts < 2 ^ format.precision * 2 ^ parts.2 := by
          rw [valueOf]
          exact mul_lt_mul_of_pos_right (by exact_mod_cast normal.fits) (by positivity)
      _ ≤ 2 ^ format.precision * 2 ^ format.maxExponent := by
          gcongr
          norm_num
      _ = format.limit := by rw [limit, zpow_add₀ two, zpow_natCast]
  · intro below
    by_contra outside
    have leading := normal.leading.resolve_right (by omega)
    refine absurd below (not_lt.mpr ?_)
    have split : (format.precision : Int) + format.maxExponent =
        (format.precision - 1 : Nat) + (format.maxExponent + 1) := by omega
    calc format.limit = 2 ^ (format.precision - 1) * 2 ^ (format.maxExponent + 1) := by
          rw [limit, split, zpow_add₀ two, zpow_natCast]
      _ ≤ parts.1 * 2 ^ parts.2 := by
          gcongr
          · exact_mod_cast leading
          · norm_num
          · omega

end BinaryFormat

namespace Binary64

open BinaryFormat

/-- A magnitude with a sign. -/
def signed (negative : Bool) (magnitude : ℚ) : ℚ := if negative then -magnitude else magnitude

/-- The magnitude of a signed number. -/
@[simp] theorem abs_signed (negative : Bool) (magnitude : ℚ) :
    |signed negative magnitude| = |magnitude| := by
  cases negative <;> simp [signed]

/-- The nearest number to a signed value has the same sign. -/
theorem isNearest_signed {format : BinaryFormat} {value number : ℚ}
    (h : format.IsNearest value number) (negative : Bool) :
    format.IsNearest (signed negative value) (signed negative number) := by
  cases negative with
  | true => exact h.neg
  | false => exact h

variable {negative : Bool} {num den m : Nat} {q : Int} {canonical : IsCanonical m q}

/-- The value of a finite datum. -/
theorem toRat?_finite :
    (Binary64.finite negative m q canonical).toRat? = some (signed negative (valueOf (m, q))) := by
  have value := div_ratioOf_two m q
  rw [toRat?, valueOf, ← value, Rat.mkRat_eq_div]
  congr 1
  cases negative with
  | true =>
    simp only [signed, if_true]
    push_cast
    ring
  | false =>
    simp only [signed, Bool.false_eq_true, if_false]
    push_cast
    rfl

/-- A ratio is read as a finite number if it is rounded to one below the limit. -/
theorem exists_ofRatio (negative : Bool) (hd : 0 < den)
    (range : double.round ((num : ℚ) / den) < double.limit) :
    ∃ (m : Nat) (q : Int) (canonical : IsCanonical m q),
      ofRatio negative num den = .finite negative m q canonical ∧
        valueOf (m, q) = double.round ((num : ℚ) / den) := by
  have normal := nearest_isNormal .double (by decide) num hd
  rw [← valueOf_nearest hd, ← normal.exponent_le_iff (by decide) (by decide)] at range
  have within := (isCanonical_iff _).mpr ⟨normal, range⟩
  exact ⟨_, _, within, by rw [ofRatio, ofParts, dif_pos within], valueOf_nearest hd⟩

/-- A ratio that is rounded to the limit or beyond is read as an infinity. -/
theorem ofRatio_of_limit_le (negative : Bool) (hd : 0 < den)
    (range : double.limit ≤ double.round ((num : ℚ) / den)) :
    ofRatio negative num den = .infinite negative := by
  have normal := nearest_isNormal .double (by decide) num hd
  rw [← valueOf_nearest hd, ← not_lt, ← normal.exponent_le_iff (by decide) (by decide)] at range
  rw [ofRatio, ofParts, dif_neg]
  exact fun within => range ((isCanonical_iff _).mp within).2

/-- A number is narrowed to a finite number if it is rounded to one below the limit. -/
theorem exists_toSingle (negative : Bool) (canonical : IsCanonical m q)
    (range : single.round (valueOf (m, q)) < single.limit) :
    ∃ (m' : Nat) (q' : Int) (canonical' : IsCanonical m' q'),
      (Binary64.finite negative m q canonical).toSingle = .finite negative m' q' canonical' ∧
        valueOf (m', q') = single.round (valueOf (m, q)) := by
  have hd := ratioOf_pos Nat.two_pos m q
  have value : valueOf (m, q) = ((ratioOf 2 m q).1 : ℚ) / (ratioOf 2 m q).2 :=
    (div_ratioOf_two m q).symm
  have normal := nearest_isNormal .single (by decide) (ratioOf 2 m q).1 hd
  rw [value] at range ⊢
  rw [← valueOf_nearest hd] at range ⊢
  have inside := (normal.exponent_le_iff (by decide) (by decide)).mpr range
  have held : single.Holds _ := ⟨_, _, normal.fits, normal.least, inside, rfl⟩
  obtain ⟨m', q', canonical', read, same⟩ := ofScientific_of_holds negative _ _ (holds_double held)
  refine ⟨m', q', canonical', ?_, same⟩
  simp only [toSingle, narrow]
  rw [if_neg (not_lt.mpr inside), read]

/-- A number that is rounded to the limit or beyond is narrowed to an infinity. -/
theorem toSingle_of_limit_le (range : single.limit ≤ single.round (valueOf (m, q))) :
    (Binary64.finite negative m q canonical).toSingle = .infinite negative := by
  have hd := ratioOf_pos Nat.two_pos m q
  have value : valueOf (m, q) = ((ratioOf 2 m q).1 : ℚ) / (ratioOf 2 m q).2 :=
    (div_ratioOf_two m q).symm
  have normal := nearest_isNormal .single (by decide) (ratioOf 2 m q).1 hd
  rw [value, ← valueOf_nearest hd, ← not_lt, ← normal.exponent_le_iff (by decide) (by decide),
    not_le] at range
  simp only [toSingle, narrow]
  rw [if_pos range]

end Binary64

end OrcRows
