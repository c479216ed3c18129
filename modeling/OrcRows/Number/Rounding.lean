/-!
# Rounding quotients and counting digits

A quotient of naturals is rounded to the nearest natural, an exact half going to the even
neighbour. The main statement is that the result lies within half a unit of the quotient. The
number of decimal digits comes with its two bounds.
-/

namespace OrcRows.Rounding

/-- The natural nearest to `num / den`; of two equally near ones, the even one. -/
def halfEven (num den : Nat) : Nat :=
  let quotient := num / den
  let doubled := 2 * (num % den)
  if doubled < den then quotient
  else if den < doubled then quotient + 1
  else if quotient % 2 = 0 then quotient
  else quotient + 1

/-- A quotient without remainder is left alone. -/
theorem halfEven_mul_right (n : Nat) {den : Nat} (positive : 0 < den) :
    halfEven (n * den) den = n := by
  simp [halfEven, Nat.mul_div_cancel _ positive, positive]

/-- Rounding moves a quotient by at most half a unit. -/
theorem halfEven_bounds (num : Nat) {den : Nat} (positive : 0 < den) :
    2 * num ≤ (2 * halfEven num den + 1) * den ∧ 2 * halfEven num den * den ≤ 2 * num + den := by
  have split := Nat.div_add_mod num den
  have small := Nat.mod_lt num positive
  have comm : den * (num / den) = num / den * den := Nat.mul_comm ..
  unfold halfEven
  simp only
  repeat' split
  all_goals
    simp only [Nat.add_mul, Nat.mul_add, Nat.mul_assoc, Nat.one_mul, Nat.mul_one]
    omega

/-- The number of decimal digits of a natural; zero has one. -/
def digitCount (n : Nat) : Nat :=
  if n < 10 then 1 else digitCount (n / 10) + 1

/-- A natural lies below the power of ten of its digit count. -/
theorem lt_pow_digitCount (n : Nat) : n < Nat.pow 10 (digitCount n) := by
  induction n using digitCount.induct with
  | case1 n small => rw [digitCount, if_pos small]; simpa using small
  | case2 n large ih =>
    rw [digitCount, if_neg large]
    change n < Nat.pow 10 (digitCount (n / 10)) * 10
    omega

/-- A positive natural has no fewer digits than its leading power of ten. -/
theorem pow_digitCount_le {n : Nat} (positive : 0 < n) : Nat.pow 10 (digitCount n - 1) ≤ n := by
  induction n using digitCount.induct with
  | case1 n small =>
    rw [digitCount, if_pos small]
    exact positive
  | case2 n large ih =>
    have tail := ih (by omega)
    have least : 1 ≤ digitCount (n / 10) := by rw [digitCount]; split <;> omega
    rw [digitCount, if_neg large]
    have step : digitCount (n / 10) + 1 - 1 = (digitCount (n / 10) - 1) + 1 := by omega
    rw [step]
    change Nat.pow 10 (digitCount (n / 10) - 1) * 10 ≤ n
    omega

/-- The decimal digits of a natural, without leading zeros. -/
def digits (n : Nat) : List Char := Nat.toDigits 10 n

/-- A ratio divided by a power of the base: numerator and denominator stay naturals. -/
def scaleDown (base num den : Nat) : Int → Nat × Nat
  | .ofNat power => (num, den * Nat.pow base power)
  | .negSucc power => (num * Nat.pow base (power + 1), den)

/-- The ratio `significand * base ^ exponent`. -/
def ratioOf (base significand : Nat) : Int → Nat × Nat
  | .ofNat power => (significand * Nat.pow base power, 1)
  | .negSucc power => (significand, Nat.pow base (power + 1))

end OrcRows.Rounding
