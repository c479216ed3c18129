import OrcRows.Proofs.Number.NearestDecimal
import OrcRows.Proofs.Number.SingleReading

/-!
# Decimals of powers of two

The numbers that are read as a power of two reach twice as far above it as below. So a decimal with
some digits may be read as the power though the nearest one with as many digits is not. If any is,
one of the two next to the power is, which is a finite matter for the powers in range: it happens
for three of them.
-/

namespace OrcRows

open Rounding

namespace BinaryFormat

/-- A ratio rounded to 64 bits and then to 32 bits, as a significand and an exponent. -/
def rereadParts (ratio : Nat × Nat) : Nat × Int :=
  let wide := double.nearest ratio.1 ratio.2
  let again := ratioOf 2 wide.1 wide.2
  single.nearest again.1 again.2

/-- Whether a decimal is read as the 32-bit number nearest to a ratio. -/
def comesBack (num den : Nat) (decimal : Scientific) : Bool :=
  decide (rereadParts (ratioOf 10 decimal.digits decimal.exponent) = single.nearest num den)

/-- Whether no decimal of up to some digits is read as a 32-bit number unless the nearest one with
as many digits is. The digits are tried from the most on, until no decimal is read as the number. -/
def nearestComesBack (num den : Nat) : Nat → Bool
  | 0 => true
  | count + 1 =>
    let place := Scientific.lastPlace num den (count + 1)
    let units := Scientific.unitsBelow num den place
    if comesBack num den (Scientific.ofRatio num den (count + 1)) then
      nearestComesBack num den count
    else !(comesBack num den ⟨units, place⟩ || comesBack num den ⟨units + 1, place⟩)

/-- Of the powers of two in the range of the 32-bit format, three have a decimal that comes back and
has fewer digits than the nearest ones that do. -/
theorem nearestComesBack_power : ∀ step < 277,
    nearestComesBack (ratioOf 2 (2 ^ 52) ((step : Nat) - 201)).1
        (ratioOf 2 (2 ^ 52) ((step : Nat) - 201)).2 8 = false ↔
      (step : Int) - 149 ∈ [-96, 87, 90] := by
  decide +kernel

variable {num den count : Nat} {decimal : Scientific}

/-- The parts that are read stand for the number that is read. -/
theorem valueOf_rereadParts {ratio : Nat × Nat} (hr : 0 < ratio.2) :
    valueOf (rereadParts ratio) = reread (quotient ratio) := by
  have wide : valueOf (double.nearest ratio.1 ratio.2) = double.round (quotient ratio) :=
    valueOf_nearest hr
  rw [rereadParts, valueOf_nearest (ratioOf_pos Nat.two_pos _ _), div_ratioOf_two, reread, ← wide]
  rfl

/-- What is read is in normal form. -/
theorem isNormal_rereadParts (ratio : Nat × Nat) : single.IsNormal (rereadParts ratio) :=
  nearest_isNormal single (by decide) _ (ratioOf_pos Nat.two_pos _ _)

/-- A decimal comes back if its number is read as the number of the ratio. -/
theorem comesBack_iff (hd : 0 < den) (held : single.Represents ((num : ℚ) / den)) :
    comesBack num den decimal = true ↔ reread decimal.value = num / den := by
  have hr := ratioOf_pos (show 0 < 10 by norm_num) decimal.digits decimal.exponent
  have value : quotient (ratioOf 10 decimal.digits decimal.exponent) = decimal.value := by
    rw [quotient_ratioOf, Scientific.value, Nat.cast_ofNat]
  have read := valueOf_rereadParts hr
  have stays : valueOf (single.nearest num den) = num / den := by
    rw [valueOf_nearest hd, round_of_represents (by decide) held]
  rw [value] at read
  rw [comesBack, decide_eq_true_eq]
  constructor
  · intro same
    rw [← read, same, stays]
  · intro back
    exact (isNormal_rereadParts _).eq_of_value (by decide)
      (nearest_isNormal single (by decide) num hd) (read.trans (back.trans stays.symm))

/-- If a decimal of few digits is read as a number, one of the two next to that number is. -/
theorem neighbour_comesBack (hn : 0 < num) (hd : 0 < den)
    (held : single.Represents ((num : ℚ) / den)) (some : 1 ≤ count)
    (few : decimal.digits < 10 ^ count) (back : reread decimal.value = num / den) :
    comesBack num den ⟨Scientific.unitsBelow num den (Scientific.lastPlace num den count),
        Scientific.lastPlace num den count⟩ = true ∨
      comesBack num den ⟨Scientific.unitsBelow num den (Scientific.lastPlace num den count) + 1,
        Scientific.lastPlace num den count⟩ = true := by
  obtain ⟨least, most⟩ :=
    Scientific.unitsBelow_spec hd num (Scientific.lastPlace num den count)
  have stays := reread_of_represents held
  have positive : 0 ≤ decimal.value := by
    rw [Scientific.value]
    positivity
  rw [comesBack_iff hd held, comesBack_iff hd held, Scientific.value, Scientific.value]
  push_cast
  rcases Scientific.le_below_or_above_le hn hd some few with below | above
  · left
    exact le_antisymm ((reread_mono (by positivity) least).trans_eq stays)
      (back.symm.trans_le (reread_mono positive below))
  · right
    exact le_antisymm ((reread_mono (by positivity) above).trans_eq back)
      (stays.symm.trans_le (reread_mono (by positivity) most.le))

/-- If the nearest decimals come back, each of them does as soon as any decimal of as many digits
does. -/
theorem reread_ofRatio_of_nearestComesBack (hn : 0 < num) (hd : 0 < den)
    (held : single.Represents ((num : ℚ) / den)) {most : Nat}
    (tried : nearestComesBack num den most = true) (some : 1 ≤ count) (bounded : count ≤ most)
    (few : decimal.digits < 10 ^ count) (back : reread decimal.value = num / den) :
    reread (Scientific.ofRatio num den count).value = num / den := by
  induction most with
  | zero => omega
  | succ most ih =>
    rw [nearestComesBack] at tried
    split at tried
    case isTrue nearest =>
      rcases bounded.lt_or_eq with fewer | rfl
      · exact ih tried (by omega)
      · exact (comesBack_iff hd held).mp nearest
    case isFalse =>
      have few' : decimal.digits < 10 ^ (most + 1) :=
        few.trans_le (Nat.pow_le_pow_right (by norm_num) bounded)
      have neighbour := neighbour_comesBack hn hd held (by omega) few' back
      simp only [Bool.not_eq_true', Bool.or_eq_false_iff] at tried
      rw [tried.1, tried.2] at neighbour
      simp at neighbour

/-- If any decimal of up to eight digits is read as a power of two, the nearest one with as many
digits is, except for three powers. -/
theorem reread_ofRatio_power {q : Int} (least : -201 ≤ q) (most : q ≤ 75)
    (regular : q + 52 ∉ ([-96, 87, 90] : List Int)) (some : 1 ≤ count) (bounded : count ≤ 8)
    (few : decimal.digits < 10 ^ count) (back : reread decimal.value = (2 ^ 52 : Nat) * 2 ^ q) :
    reread (Scientific.ofRatio (ratioOf 2 (2 ^ 52) q).1 (ratioOf 2 (2 ^ 52) q).2 count).value =
      (2 ^ 52 : Nat) * 2 ^ q := by
  obtain ⟨step, hstep⟩ := Int.le.dest least
  obtain rfl : q = step - 201 := by omega
  have hn := ratioOf_fst_pos Nat.two_pos (Nat.two_pow_pos 52) (step - 201 : Int)
  have hd := ratioOf_pos Nat.two_pos (2 ^ 52) (step - 201 : Int)
  have value := div_ratioOf_two (2 ^ 52) (step - 201 : Int)
  have power : ((2 ^ 52 : Nat) : ℚ) * 2 ^ (step - 201 : Int) = 2 ^ (step - 149 : Int) := by
    rw [Nat.cast_pow, Nat.cast_ofNat, ← zpow_natCast, ← zpow_add₀ (by norm_num)]
    congr 1
    push_cast
    ring
  have held : single.Represents (2 ^ (step - 149 : Int)) :=
    represents_pow (by decide) (by
      show (-149 : Int) ≤ _
      omega)
  have tried : nearestComesBack (ratioOf 2 (2 ^ 52) (step - 201 : Int)).1
      (ratioOf 2 (2 ^ 52) (step - 201 : Int)).2 8 = true := by
    by_contra missed
    have exception := (nearestComesBack_power step (by omega)).mp (by simpa using missed)
    have shift : (step : Int) - 201 + 52 = step - 149 := by ring
    exact regular (shift ▸ exception)
  rw [← value] at back ⊢
  exact reread_ofRatio_of_nearestComesBack hn hd (by rw [value, power]; exact held) tried some
    bounded few back

end BinaryFormat

end OrcRows
