import OrcRows.Proofs.Number.Nearest

/-!
# Numbers of the 32-bit format among the 64-bit ones

A binary64 datum is a number of the 32-bit format if that format holds its value. Narrowing always
ends in such a number, and leaves such a number alone. Integers of up to 64 bits have a binary64
datum, so reading them as floating-point numbers never fails.
-/

namespace OrcRows

open Rounding

namespace Binary64

/-- The canonical forms are the normal forms of the 64-bit format with an exponent in range. -/
theorem isCanonical_iff (parts : Nat × Int) :
    IsCanonical parts.1 parts.2 ↔
      BinaryFormat.double.IsNormal parts ∧ parts.2 ≤ BinaryFormat.double.maxExponent := by
  constructor
  · rintro ⟨hfits, hleast, hmost, hlead⟩
    exact ⟨⟨hfits, hleast, hlead⟩, hmost⟩
  · rintro ⟨⟨hfits, hleast, hlead⟩, hmost⟩
    exact ⟨hfits, hleast, hmost, hlead⟩

/-- Whether the 32-bit format holds a datum. -/
def IsSingle : Binary64 → Prop
  | .finite _ significand exponent _ =>
    BinaryFormat.single.Holds ((significand : ℚ) * 2 ^ exponent)
  | _ => True

/-- A significand and an exponent that the 64-bit format holds make a datum of the same value. -/
theorem ofScientific_of_holds (negative : Bool) (significand : Nat) (exponent : Int)
    (hh : BinaryFormat.double.Holds ((significand : ℚ) * 2 ^ exponent)) :
    ∃ (m : Nat) (q : Int) (hc : IsCanonical m q),
      ofScientific negative 2 significand exponent = .finite negative m q hc ∧
        (m : ℚ) * 2 ^ q = significand * 2 ^ exponent := by
  have hpos := ratioOf_pos Nat.two_pos significand exponent
  have hval := quotient_ratioOf 2 significand exponent
  simp only [quotient, Nat.cast_ofNat] at hval
  rw [← hval] at hh
  obtain ⟨hvalue, hrange⟩ := BinaryFormat.nearest_of_holds (by decide) _ hpos hh
  have hnormal := BinaryFormat.nearest_isNormal .double (by decide)
    (ratioOf 2 significand exponent).1 hpos
  have hcanonical := (isCanonical_iff _).mpr ⟨hnormal, hrange⟩
  refine ⟨_, _, hcanonical, ?_, hvalue.trans hval⟩
  simp only [ofScientific, ofRatio, ofParts]
  rw [dif_pos hcanonical]

/-- The 64-bit format holds what the 32-bit format holds. -/
theorem holds_double {value : ℚ} (hh : BinaryFormat.single.Holds value) :
    BinaryFormat.double.Holds value := by
  obtain ⟨k, e, hk, hmin, hmax, hval⟩ := hh
  refine ⟨k, e, lt_trans hk (by decide), ?_, ?_, hval⟩
  · exact le_trans (by decide) hmin
  · exact le_trans hmax (by decide)

/-- Narrowing ends in a number of the 32-bit format. -/
theorem isSingle_toSingle (x : Binary64) : x.toSingle.IsSingle := by
  cases x with
  | nan => exact trivial
  | infinite negative => exact trivial
  | finite negative significand exponent canonical =>
    simp only [toSingle, narrow]
    have hpos := ratioOf_pos Nat.two_pos significand exponent
    have hnormal := BinaryFormat.nearest_isNormal .single (by decide)
      (ratioOf 2 significand exponent).1 hpos
    split
    case isTrue above => exact trivial
    case isFalse inside =>
      have hh : BinaryFormat.single.Holds _ :=
        ⟨_, _, hnormal.fits, hnormal.least, not_lt.mp inside, rfl⟩
      obtain ⟨m, q, hc, heq, hval⟩ := ofScientific_of_holds negative _ _ (holds_double hh)
      rw [heq, IsSingle, hval]
      exact hh

/-- A number of the 32-bit format stays what it is when it is narrowed. -/
theorem toSingle_of_isSingle {x : Binary64} (hs : x.IsSingle) : x.toSingle = x := by
  cases x with
  | nan => rfl
  | infinite negative => rfl
  | finite negative significand exponent canonical =>
    have hpos := ratioOf_pos Nat.two_pos significand exponent
    have hratio := quotient_ratioOf 2 significand exponent
    simp only [quotient, Nat.cast_ofNat] at hratio
    have hh := hs
    rw [IsSingle, ← hratio] at hh
    obtain ⟨hvalue, hrange⟩ := BinaryFormat.nearest_of_holds (by decide) _ hpos hh
    have hsame := hvalue.trans hratio
    obtain ⟨m, q, hc, heq, hval⟩ := ofScientific_of_holds negative _ _
      (holds_double (by rw [hsame]; exact hs))
    have hparts := BinaryFormat.IsNormal.eq_of_value (by decide)
      ((isCanonical_iff (m, q)).mp hc).1
      ((isCanonical_iff (significand, exponent)).mp canonical).1 (hval.trans hsame)
    simp only [Prod.mk.injEq] at hparts
    obtain ⟨rfl, rfl⟩ := hparts
    simp only [toSingle, narrow]
    rw [if_neg (not_lt.mpr hrange), heq]

/-- Every integer of at most 64 bits has a nearest finite number. -/
theorem ofInt?_isSome {value : Int} (hb : value.natAbs ≤ 2 ^ 64) :
    (ofInt? value).isSome := by
  have hnormal := BinaryFormat.nearest_isNormal .double (by decide) value.natAbs
    Nat.one_pos
  have hrange : (BinaryFormat.double.nearest value.natAbs 1).2 ≤
      BinaryFormat.double.maxExponent := by
    rcases Nat.eq_zero_or_pos value.natAbs with hz | hn
    · rw [hz]
      decide
    have hl := (BinaryFormat.binade_spec hn Nat.one_pos).1
    have hu : (value.natAbs : ℚ) ≤ 2 ^ (64 : Int) := by exact_mod_cast hb
    rw [Nat.cast_one, div_one] at hl
    have hle := (zpow_le_zpow_iff_right₀ (by norm_num : (1 : ℚ) < 2)).mp (hl.trans hu)
    have hgrid : BinaryFormat.double.grid value.natAbs 1 ≤ 12 := by
      simp only [BinaryFormat.grid, BinaryFormat.double]
      omega
    have hmax : BinaryFormat.double.maxExponent = 971 := rfl
    rw [BinaryFormat.nearest_of_pos _ hn]
    split <;> dsimp only <;> omega
  have hcanonical := (isCanonical_iff _).mpr ⟨hnormal, hrange⟩
  simp only [ofInt?, ofRatio, ofParts]
  rw [dif_pos hcanonical]
  rfl

end Binary64

end OrcRows
