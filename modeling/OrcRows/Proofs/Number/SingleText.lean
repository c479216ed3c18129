import OrcRows.Proofs.Number.FloatReading

/-!
# The text of a 32-bit number reads back

The text of a number of the 32-bit format shows the first of nine trials that comes back to the
number: the number is rounded to a few decimal digits, that is read as a 64-bit number, and that is
narrowed to 32 bits. Neither the decimal rounding nor the reading leads far from the number, so the
trial of nine digits always comes back. The text of the trial then reads back as the trial.
-/

namespace OrcRows

open Rounding

namespace Binary64

variable {negative : Bool} {num den m m' : Nat} {q q' : Int} {canonical : IsCanonical m q}
  {canonical' : IsCanonical m' q'}

/-- A ratio well within the 64-bit format is rounded to a number near it. -/
theorem exists_near_ofRatio (negative : Bool) (hn : 0 < num) (hd : 0 < den)
    (least : (2 : ℚ) ^ (-1000 : Int) ≤ num / den) (most : (num : ℚ) / den < 2 ^ (1000 : Int)) :
    ∃ (m : Nat) (q : Int) (canonical : IsCanonical m q),
      ofRatio negative num den = .finite negative m q canonical ∧
      |(m : ℚ) * 2 ^ q - num / den| ≤ num / den / 2 ^ 53 := by
  have two : (2 : ℚ) ≠ 0 := by norm_num
  have low : -1000 ≤ BinaryFormat.binade num den := by
    rw [← not_lt, BinaryFormat.binade_lt_iff hn hd, not_lt]
    exact least
  have high := (BinaryFormat.binade_lt_iff hn hd).mpr most
  have grid : BinaryFormat.double.grid num den = BinaryFormat.binade num den - 52 := by
    rw [BinaryFormat.grid, BinaryFormat.double]
    dsimp only
    omega
  have normal := BinaryFormat.nearest_isNormal .double (by decide) num hd
  have range : (BinaryFormat.double.nearest num den).2 ≤ BinaryFormat.double.maxExponent := by
    rw [BinaryFormat.nearest_of_pos _ hn, grid, BinaryFormat.double]
    split <;> dsimp only <;> omega
  have within := (isCanonical_iff _).mpr ⟨normal, range⟩
  refine ⟨_, _, within, ?_, ?_⟩
  · rw [ofRatio, ofParts, dif_pos within]
  · refine (BinaryFormat.abs_nearest_sub_le .double (by decide) hn hd).trans ?_
    rw [grid, zpow_sub₀ two]
    have := (BinaryFormat.binade_spec hn hd).1
    have unit : (2 : ℚ) ^ (52 : Int) = 2 ^ 52 := zpow_ofNat 2 52
    rw [unit, div_div, ← pow_succ]
    gcongr

/-- What is near enough to a number of the 32-bit format is narrowed to it. -/
theorem toSingle_of_close (single : (Binary64.finite negative m q canonical).IsSingle)
    (positive : 0 < m) (close : |(m' : ℚ) * 2 ^ q' - m * 2 ^ q| < m * 2 ^ q / 2 ^ 25) :
    (Binary64.finite negative m' q' canonical').toSingle = .finite negative m q canonical := by
  have hd := ratioOf_pos Nat.two_pos m q
  have hd' := ratioOf_pos Nat.two_pos m' q'
  have value := div_ratioOf_two m q
  have value' := div_ratioOf_two m' q'
  have held := single
  rw [IsSingle, ← value] at held
  have same := (BinaryFormat.nearest_of_holds (by decide) _ hd held).1
  have normal := BinaryFormat.nearest_isNormal .single (by decide) (ratioOf 2 m q).1 hd
  rw [value] at same
  cases parts : BinaryFormat.single.nearest (ratioOf 2 m q).1 (ratioOf 2 m q).2 with
  | mk k e =>
  rw [parts] at same normal
  have number : (0 : ℚ) < m * 2 ^ q := by positivity
  have some := pos_of_cast_mul_pos (number.trans_eq same.symm)
  have parts' := BinaryFormat.nearest_of_close (by decide) normal some hd'
    (by rw [value', same]; exact close)
  rw [← toSingle_of_isSingle single]
  simp only [toSingle, narrow, parts, parts']

/-- Narrowing makes a number of numbers only. -/
theorem isFinite_of_toSingle {x : Binary64} (h : x.toSingle.isFinite = true) :
    x.isFinite = true := by
  cases x with
  | nan => exact h
  | infinite negative => exact h
  | finite negative m q canonical => rfl

/-- Equal numbers of which one is not zero are the same. -/
theorem eq_of_sameNumber {x : Binary64} (positive : 0 < m)
    (h : x.sameNumber (.finite negative m q canonical) = true) :
    x = .finite negative m q canonical := by
  cases x with
  | nan => contradiction
  | infinite other => simp [sameNumber] at h
  | finite other m' q' canonical' =>
    simpa [sameNumber, positive.ne'] using h

/-- The bounds of the numbers of the 32-bit format. -/
theorem IsSingle.bounds (single : (Binary64.finite negative m q canonical).IsSingle)
    (positive : 0 < m) :
    (2 : ℚ) ^ (-149 : Int) ≤ m * 2 ^ q ∧ (m : ℚ) * 2 ^ q < 2 ^ (128 : Int) := by
  obtain ⟨k, e, fits, least, most, value⟩ := single
  have fits' : (k : ℚ) < 2 ^ 24 := by exact_mod_cast fits
  have number : (0 : ℚ) < m * 2 ^ q := by positivity
  have some : (1 : ℚ) ≤ k := by exact_mod_cast pos_of_cast_mul_pos (number.trans_eq value)
  have two : (1 : ℚ) ≤ 2 := by norm_num
  rw [value]
  constructor
  · calc (2 : ℚ) ^ (-149 : Int) = 1 * 2 ^ (-149 : Int) := (one_mul _).symm
      _ ≤ k * 2 ^ e := by gcongr; exact least
  · calc (k : ℚ) * 2 ^ e < 2 ^ 24 * 2 ^ e := by gcongr
      _ ≤ 2 ^ 24 * 2 ^ (104 : Int) := by gcongr; exact most
      _ = 2 ^ (128 : Int) := by norm_num

/-- A decimal about as great as a number of the 32-bit format is read as a number near it. -/
theorem exists_near_toBinary64 (negative : Bool) {decimal : Scientific} {number : ℚ}
    (least : (2 : ℚ) ^ (-149 : Int) ≤ number) (most : number < 2 ^ (128 : Int))
    (rough : |decimal.value - number| ≤ number * 2⁻¹) :
    ∃ (m : Nat) (q : Int) (canonical : IsCanonical m q),
      decimal.toBinary64 negative = .finite negative m q canonical ∧
      |(m : ℚ) * 2 ^ q - decimal.value| ≤ decimal.value / 2 ^ 53 := by
  have small : (2 : ℚ) ^ (-1000 : Int) ≤ 2 ^ (-149 : Int) * 2⁻¹ := by
    rw [← zpow_sub_one₀ (by norm_num)]
    exact zpow_le_zpow_right₀ (by norm_num) (by norm_num)
  have large : (2 : ℚ) ^ (128 : Int) * 2 ≤ 2 ^ (1000 : Int) := by
    rw [← zpow_add_one₀ (by norm_num)]
    exact zpow_le_zpow_right₀ (by norm_num) (by norm_num)
  obtain ⟨below, above⟩ := abs_le.mp rough
  have half : number * 2⁻¹ ≤ decimal.value := by linarith
  have twice : decimal.value ≤ number * 2 := by
    have : (0 : ℚ) < 2 ^ (-149 : Int) := by positivity
    linarith
  have low := small.trans ((mul_le_mul_of_nonneg_right least (by norm_num)).trans half)
  have high := twice.trans_lt ((mul_lt_mul_of_pos_right most (by norm_num)).trans_le large)
  have some : 0 < decimal.digits :=
    pos_of_cast_mul_pos (lt_of_lt_of_le (by positivity : (0 : ℚ) < 2 ^ (-1000 : Int)) low)
  have hn := ratioOf_fst_pos (show 0 < 10 by norm_num) some decimal.exponent
  have hd := ratioOf_pos (show 0 < 10 by norm_num) decimal.digits decimal.exponent
  have value : ((ratioOf 10 decimal.digits decimal.exponent).1 : ℚ) /
      (ratioOf 10 decimal.digits decimal.exponent).2 = decimal.value := by
    have := quotient_ratioOf 10 decimal.digits decimal.exponent
    rwa [quotient, Nat.cast_ofNat] at this
  have near := exists_near_ofRatio negative hn hd (value ▸ low) (value ▸ high)
  rw [value] at near
  exact near

/-- Nine digits of a number of the 32-bit format come back to it. -/
theorem toSingle_toDigits_nine (single : (Binary64.finite negative m q canonical).IsSingle)
    (positive : 0 < m) :
    ((Binary64.finite negative m q canonical).toDigits 9).toSingle =
      .finite negative m q canonical := by
  have hn := ratioOf_fst_pos Nat.two_pos positive q
  have hd := ratioOf_pos Nat.two_pos m q
  have value := div_ratioOf_two m q
  have number : (0 : ℚ) < m * 2 ^ q := by positivity
  obtain ⟨least, most⟩ := IsSingle.bounds single positive
  have near := Scientific.abs_value_ofRatio_sub_le hn hd 9
  rw [value] at near
  obtain ⟨below, above⟩ := abs_le.mp near
  obtain ⟨m', q', canonical', read, near'⟩ :=
    exists_near_toBinary64 negative least most (near.trans (by linarith))
  have back : (Binary64.finite negative m q canonical).toDigits 9 =
      .finite negative m' q' canonical' := by
    rw [← read, toDigits, if_neg positive.ne']
  obtain ⟨below', above'⟩ := abs_le.mp near'
  rw [back]
  apply toSingle_of_close single positive
  rw [abs_lt]
  constructor <;> linarith

/-- A trial that is the same number as a number of the 32-bit format comes back to it, and the trial
of nine digits does. -/
theorem toSingle_toDigits {x : Binary64} (finite : x.isFinite = true) (single : x.IsSingle) :
    (∀ count, (x.toDigits count).toSingle.sameNumber x = true → (x.toDigits count).toSingle = x) ∧
      (x.toDigits 9).toSingle = x := by
  cases x with
  | nan => contradiction
  | infinite negative => contradiction
  | finite negative m q canonical =>
    rcases Nat.eq_zero_or_pos m with rfl | positive
    · have stays (count : Nat) : (Binary64.finite negative 0 q canonical).toDigits count =
          .finite negative 0 q canonical := by
        rw [toDigits, if_pos rfl]
      have back := toSingle_of_isSingle single
      exact ⟨fun count _ => by rw [stays, back], by rw [stays, back]⟩
    · exact ⟨fun count same => eq_of_sameNumber positive same,
        toSingle_toDigits_nine single positive⟩

/-- The text of a number of the 32-bit format is that of a trial that comes back to the number. -/
theorem exists_trial {x : Binary64} (finite : x.isFinite = true) (single : x.IsSingle) :
    ∃ count : Nat, 1 ≤ count ∧ count ≤ 9 ∧ (x.toDigits count).toSingle = x ∧
      x.singleText = (x.toDigits count).text := by
  obtain ⟨only, nine⟩ := toSingle_toDigits finite single
  simp only [singleText, if_pos finite]
  cases search : ((List.range 9).map fun count => x.toDigits (count + 1)).find?
      fun candidate => candidate.toSingle.sameNumber x with
  | none =>
    have among : x.toDigits 9 ∈ (List.range 9).map fun count => x.toDigits (count + 1) :=
      List.mem_map.mpr ⟨8, by decide, rfl⟩
    refine absurd ?_ (List.find?_eq_none.mp search _ among)
    have number : x ≠ .nan := by
      rintro rfl
      contradiction
    rw [nine]
    exact sameNumber_self number
  | some candidate =>
    obtain ⟨count, few, rfl⟩ := List.mem_map.mp (List.mem_of_find?_eq_some search)
    have count_lt := List.mem_range.mp few
    have same := List.find?_some search
    exact ⟨count + 1, by omega, by omega, only _ same, rfl⟩

/-- The text of a finite number of the 32-bit format is read, narrowed to 32 bits, as the number. -/
theorem ofText?_singleText {x : Binary64} (finite : x.isFinite = true) (single : x.IsSingle) :
    (ofText? x.singleText).map toSingle = some x := by
  obtain ⟨count, -, -, back, shown⟩ := exists_trial finite single
  have finite' : (x.toDigits count).toSingle.isFinite = true := by
    rw [back]
    exact finite
  rw [shown, ofText?_text (isFinite_of_toSingle finite'), Option.map_some, back]

end Binary64

end OrcRows
