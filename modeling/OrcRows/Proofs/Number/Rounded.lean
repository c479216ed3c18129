import OrcRows.Proofs.Number.Close

/-!
# The nearest number of a format

What rounding means, apart from how it is computed: no other number of the format is nearer to the
value, and of two equally near ones the significand of the result is even. The executable rounding
does just that, and there is only one such number. Rounding is monotone, and rounding to a fine
format before a coarse one differs from rounding at once only where the fine number lies halfway
between two neighbours of the coarse format.
-/

namespace OrcRows

namespace Rounding

/-- The natural nearest to a rational that is not negative; of two equally near ones, the even
one. -/
def nearestNat (value : ℚ) : Nat := halfEven value.num.natAbs value.den

/-- A rational that is not negative is the quotient of its parts. -/
theorem natAbs_num_div_den {value : ℚ} (h : 0 ≤ value) :
    (value.num.natAbs : ℚ) / value.den = value := by
  have whole : ((value.num.natAbs : Int) : ℚ) = value.num :=
    congrArg _ (Int.natAbs_of_nonneg (Rat.num_nonneg.mpr h))
  rw [← Int.cast_natCast, whole, Rat.num_div_den]

/-- Rounding a ratio is rounding the rational that it stands for. -/
theorem halfEven_eq_nearestNat {ratio : Nat × Nat} (hr : 0 < ratio.2) :
    halfEven ratio.1 ratio.2 = nearestNat (quotient ratio) := by
  have least : 0 ≤ quotient ratio := by
    rw [quotient]
    positivity
  exact halfEven_congr hr (show 0 < ((quotient ratio).num.natAbs, (quotient ratio).den).2 from
    (quotient ratio).den_pos) (natAbs_num_div_den least).symm

variable {value : ℚ} {natural : Nat}

/-- The nearest natural is less than half a unit away, or half a unit and even. -/
theorem nearestNat_spec (h : 0 ≤ value) :
    |value - nearestNat value| < 1 / 2 ∨
      (|value - nearestNat value| = 1 / 2 ∧ nearestNat value % 2 = 0) := by
  set num := value.num.natAbs with hnum
  set den := value.den with hden
  have positive : (0 : ℚ) < den := by exact_mod_cast value.den_pos
  have parts : value * den = (num / den : Nat) * den + (num % den : Nat) := by
    have split : (num : ℚ) = (num / den : Nat) * den + (num % den : Nat) := by
      exact_mod_cast (Nat.div_add_mod' num den).symm
    rw [← split, ← eq_div_iff positive.ne', natAbs_num_div_den h]
  have rest : value - (num / den : Nat) = (num % den : Nat) / den := by
    rw [eq_div_iff positive.ne', sub_mul, parts]
    ring
  have least : (0 : ℚ) ≤ (num % den : Nat) / den := by positivity
  have most : ((num % den : Nat) : ℚ) / den < 1 := by
    rw [div_lt_one positive]
    exact_mod_cast Nat.mod_lt num value.den_pos
  have next : value - ((num / den : Nat) + 1 : Nat) = (num % den : Nat) / den - 1 := by
    rw [← rest]
    push_cast
    ring
  rw [nearestNat, halfEven, ← hnum, ← hden]
  split_ifs with below above even
  · left
    rw [rest, abs_of_nonneg least, div_lt_iff₀ positive]
    have : (2 * (num % den : Nat) : ℚ) < den := by exact_mod_cast below
    linarith
  · left
    rw [next, abs_of_neg (by linarith), neg_sub, sub_lt_comm, lt_div_iff₀ positive]
    have : (den : ℚ) < 2 * (num % den : Nat) := by exact_mod_cast above
    linarith
  all_goals
    have tie : ((num % den : Nat) : ℚ) / den = 1 / 2 := by
      have : (2 * (num % den : Nat) : ℚ) = den := by exact_mod_cast (by omega : 2 * (num % den) = den)
      rw [div_eq_iff positive.ne']
      linarith
  · exact .inr ⟨by rw [rest, tie, abs_of_pos (by norm_num)], even⟩
  · refine .inr ⟨?_, by omega⟩
    rw [next, tie]
    norm_num

/-- The nearest natural is half a unit away at most. -/
theorem abs_sub_nearestNat_le (h : 0 ≤ value) : |value - nearestNat value| ≤ 1 / 2 := by
  rcases nearestNat_spec h with near | ⟨tie, _⟩
  · exact near.le
  · exact tie.le

/-- Different naturals are a unit apart at least. -/
theorem one_le_abs_sub {first second : Nat} (h : first ≠ second) :
    (1 : ℚ) ≤ |(first : ℚ) - second| := by
  have apart : (1 : Int) ≤ |(first : Int) - second| :=
    Int.one_le_abs (sub_ne_zero.mpr (by exact_mod_cast h))
  exact_mod_cast apart

/-- Any other natural is half a unit away at least. -/
theorem half_le_abs_sub (h : 0 ≤ value) (other : natural ≠ nearestNat value) :
    1 / 2 ≤ |value - natural| := by
  have apart := one_le_abs_sub other
  have near := abs_sub_nearestNat_le h
  have path := abs_sub_le (natural : ℚ) value (nearestNat value)
  rw [abs_sub_comm (natural : ℚ) value] at path
  linarith

/-- Which rationals are rounded to a natural. -/
theorem nearestNat_eq_iff (h : 0 ≤ value) :
    nearestNat value = natural ↔
      |value - natural| < 1 / 2 ∨ (|value - natural| = 1 / 2 ∧ natural % 2 = 0) := by
  constructor
  · rintro rfl
    exact nearestNat_spec h
  · intro near
    by_contra other
    have far := half_le_abs_sub h (Ne.symm other)
    obtain ⟨tie, even⟩ : |value - natural| = 1 / 2 ∧ natural % 2 = 0 :=
      near.resolve_left (not_lt.mpr far)
    have apart := one_le_abs_sub (Ne.symm other)
    have path := abs_sub_le (natural : ℚ) value (nearestNat value)
    rw [abs_sub_comm (natural : ℚ) value, tie] at path
    obtain ⟨tie', even'⟩ : |value - nearestNat value| = 1 / 2 ∧ nearestNat value % 2 = 0 :=
      (nearestNat_spec h).resolve_left (by intro; linarith)
    have unit : |(natural : ℚ) - nearestNat value| = 1 := by linarith
    have unit' : |(natural : Int) - nearestNat value| = 1 := by exact_mod_cast unit
    rw [Int.abs_eq_natAbs] at unit'
    omega

/-- No whole number of units is nearer to a rational than the one that it is rounded to. -/
theorem abs_nearestNat_mul_sub_le {unit : ℚ} (positive : 0 < unit) (h : 0 ≤ value)
    (natural : Nat) :
    |nearestNat (value / unit) * unit - value| ≤ |natural * unit - value| := by
  have scaled : 0 ≤ value / unit := by positivity
  have distance (units : Nat) : |(units : ℚ) * unit - value| = |value / unit - units| * unit := by
    rw [← abs_of_pos positive, ← abs_mul, abs_of_pos positive, abs_sub_comm, sub_mul,
      div_mul_cancel₀ _ positive.ne']
  rw [distance, distance]
  by_cases same : natural = nearestNat (value / unit)
  · rw [same]
  · exact mul_le_mul_of_nonneg_right
      ((abs_sub_nearestNat_le scaled).trans (half_le_abs_sub scaled same)) positive.le

/-- What is as near to a natural as something that is rounded to it is rounded to it too. -/
theorem nearestNat_eq_of_near {other : ℚ} (h : 0 ≤ value) (ho : 0 ≤ other)
    (near : |value - natural| ≤ |other - natural|) (back : nearestNat other = natural) :
    nearestNat value = natural := by
  rw [nearestNat_eq_iff ho] at back
  rw [nearestNat_eq_iff h]
  rcases back with close | ⟨tie, even⟩
  · exact .inl (near.trans_lt close)
  · rcases (near.trans_eq tie).lt_or_eq with close | tie'
    · exact .inl close
    · exact .inr ⟨tie', even⟩

/-- What is as near to the lower of two numbers lies below their middle. -/
theorem le_midpoint_iff {lower upper : ℚ} (h : lower < upper) :
    |lower - value| ≤ |upper - value| ↔ 2 * value ≤ lower + upper := by
  rw [← sq_le_sq]
  constructor
  · intro near
    nlinarith
  · intro below
    nlinarith

/-- What is as near to the upper of two numbers lies above their middle. -/
theorem midpoint_le_iff {lower upper : ℚ} (h : lower < upper) :
    |upper - value| ≤ |lower - value| ↔ lower + upper ≤ 2 * value := by
  rw [← sq_le_sq]
  constructor
  · intro near
    nlinarith
  · intro above
    nlinarith

/-- Rounding is symmetric about an even natural: what is as near stays as near. -/
theorem abs_nearestNat_sub_le {other : ℚ} (h : 0 ≤ value) (ho : 0 ≤ other)
    (even : natural % 2 = 0) (near : |value - natural| ≤ |other - natural|) :
    |(nearestNat value : ℚ) - natural| ≤ |(nearestNat other : ℚ) - natural| := by
  by_contra farther
  rw [not_le] at farther
  have whole : |(nearestNat other : Int) - natural| + 1 ≤ |(nearestNat value : Int) - natural| := by
    have : |(nearestNat other : Int) - natural| < |(nearestNat value : Int) - natural| := by
      exact_mod_cast farther
    omega
  have whole' : |(nearestNat other : ℚ) - natural| + 1 ≤ |(nearestNat value : ℚ) - natural| := by
    exact_mod_cast whole
  have moved := abs_sub_nearestNat_le h
  have moved' := abs_sub_nearestNat_le ho
  have path := abs_sub_le (nearestNat value : ℚ) value natural
  have path' := abs_sub_le other (nearestNat other : ℚ) natural
  rw [abs_sub_comm (nearestNat value : ℚ) value] at path
  -- the distances leave room for ties only, and a tie goes to the even side on both sides alike
  obtain ⟨tie, evenValue⟩ := (nearestNat_spec h).resolve_left (by intro; linarith)
  obtain ⟨tie', evenOther⟩ := (nearestNat_spec ho).resolve_left (by intro; linarith)
  have step : |(nearestNat other : ℚ) - natural| + 1 = |(nearestNat value : ℚ) - natural| := by
    linarith
  have step' : |(nearestNat other : Int) - natural| + 1 = |(nearestNat value : Int) - natural| := by
    exact_mod_cast step
  rw [Int.abs_eq_natAbs, Int.abs_eq_natAbs] at step'
  omega

end Rounding

open Rounding

namespace BinaryFormat

/-- The number that a significand and an exponent stand for. -/
def valueOf (parts : Nat × Int) : ℚ := parts.1 * 2 ^ parts.2

/-- A number of a format, exponents unbounded above. -/
def Represents (format : BinaryFormat) (number : ℚ) : Prop :=
  ∃ parts : Nat × Int, parts.1 < 2 ^ format.precision ∧ format.minExponent ≤ parts.2 ∧
    number = valueOf parts

/-- A number with an even significand in a format. -/
def IsEven (format : BinaryFormat) (number : ℚ) : Prop :=
  ∃ parts, format.IsNormal parts ∧ parts.1 % 2 = 0 ∧ number = valueOf parts

/-- A value halfway between two neighbours in a format. -/
def IsHalfway (format : BinaryFormat) (value : ℚ) : Prop :=
  ∃ parts, format.IsNormal parts ∧ value = (parts.1 + 1 / 2) * 2 ^ parts.2

/-- A number is the nearest of a format to a value: any other number of the format is farther away,
or it is as far away and the significand of the nearest one is even. -/
def IsNearest (format : BinaryFormat) (value number : ℚ) : Prop :=
  format.Represents |number| ∧ ∀ other, format.Represents |other| → other ≠ number →
    |number - value| < |other - value| ∨
      (|number - value| = |other - value| ∧ format.IsEven |number|)

/-- The number that a value is rounded to, exponents unbounded above. -/
def round (format : BinaryFormat) (value : ℚ) : ℚ :=
  valueOf (format.nearest value.num.natAbs value.den)

variable {format : BinaryFormat} {value number : ℚ} {num den : Nat}

/-- Rounding a ratio is rounding the rational that it stands for. -/
theorem valueOf_nearest (hd : 0 < den) :
    valueOf (format.nearest num den) = format.round ((num : ℚ) / den) := by
  have least : 0 ≤ (num : ℚ) / den := by positivity
  rw [round, nearest_congr format hd ((num : ℚ) / den).den_pos]
  exact (natAbs_num_div_den least).symm

/-- A number is not negative. -/
theorem valueOf_nonneg (parts : Nat × Int) : 0 ≤ valueOf parts := by
  rw [valueOf]
  positivity

/-- What is rounded is not negative. -/
theorem round_nonneg (format : BinaryFormat) (value : ℚ) : 0 ≤ format.round value :=
  valueOf_nonneg _

/-- Zero stays zero. -/
@[simp] theorem round_zero (format : BinaryFormat) : format.round 0 = 0 := by
  simp [round, nearest, valueOf]

/-- A normal form is a number of the format. -/
theorem IsNormal.represents {parts : Nat × Int} (h : format.IsNormal parts) :
    format.Represents (valueOf parts) :=
  ⟨parts, h.fits, h.least, rfl⟩

/-- The exponent of the last place of numbers with a given leading place. -/
def unitOf (format : BinaryFormat) (leading : Int) : Int :=
  max format.minExponent (leading - (format.precision - 1))

/-- The binade of a positive rational. -/
theorem exists_leading (positive : 0 < value) :
    ∃ leading : Int, (2 : ℚ) ^ leading ≤ value ∧ value < 2 ^ (leading + 1) := by
  have hn : 0 < value.num.natAbs := Int.natAbs_pos.mpr (Rat.num_pos.mpr positive).ne'
  have := binade_spec hn value.den_pos
  rw [natAbs_num_div_den positive.le] at this
  exact ⟨_, this⟩

/-- A power of two is a whole number of units of the last place, unless it is below them. -/
theorem pow_leading (hp : 2 ≤ format.precision) {leading : Int}
    (above : format.unitOf leading ≠ format.minExponent) :
    (2 : ℚ) ^ leading = (2 ^ (format.precision - 1) : Nat) * 2 ^ format.unitOf leading := by
  have unit : leading = (format.precision - 1 : Nat) + format.unitOf leading := by
    rw [unitOf] at above ⊢
    omega
  conv_lhs => rw [unit]
  rw [zpow_add₀ (by norm_num), zpow_natCast]
  norm_cast

/-- Rounding a positive rational is rounding it to a whole number of units of the last place, and
an even number of units is an even significand. -/
theorem round_of_leading (hp : 2 ≤ format.precision) {leading : Int}
    (least : (2 : ℚ) ^ leading ≤ value) (most : value < 2 ^ (leading + 1)) :
    format.round value =
        nearestNat (value / 2 ^ format.unitOf leading) * 2 ^ format.unitOf leading ∧
      (nearestNat (value / 2 ^ format.unitOf leading) % 2 = 0 →
        format.IsEven (format.round value)) := by
  have positive : 0 < value := lt_of_lt_of_le (by positivity) least
  have hn : 0 < value.num.natAbs := Int.natAbs_pos.mpr (Rat.num_pos.mpr positive).ne'
  have hd := value.den_pos
  have split := natAbs_num_div_den positive.le
  have binades : binade value.num.natAbs value.den = leading := by
    apply eq_of_forall_lt_iff
    intro exponent
    rw [← not_le, ← not_le, ← Int.lt_add_one_iff, ← Int.lt_add_one_iff, binade_lt_iff hn hd, split,
      not_lt, not_lt]
    constructor
    · intro h
      have := (zpow_lt_zpow_iff_right₀ (by norm_num : (1 : ℚ) < 2)).mp (h.trans_lt most)
      omega
    · intro h
      exact (zpow_le_zpow_right₀ (by norm_num) (by omega)).trans least
  have grids : format.grid value.num.natAbs value.den = format.unitOf leading := by
    rw [grid, unitOf, binades]
  have whole := halfEven_eq_nearestNat
    (scaleDown_pos Nat.two_pos hd value.num.natAbs (format.unitOf leading))
  rw [quotient_scaleDown Nat.two_pos hd, split, Nat.cast_ofNat] at whole
  have parts : format.nearest value.num.natAbs value.den = _ := nearest_of_pos format hn
  have normal := nearest_isNormal format (by omega) value.num.natAbs hd
  rw [grids, whole] at parts
  have double : 2 ^ format.precision = 2 ^ (format.precision - 1) * 2 := by
    rw [← pow_succ, Nat.sub_add_cancel (by omega)]
  rw [round]
  split_ifs at parts with carry
  · rw [parts] at normal ⊢
    refine ⟨?_, fun _ => ⟨_, normal, ?_, rfl⟩⟩
    · rw [valueOf, carry, double, zpow_add_one₀ (by norm_num)]
      push_cast
      ring
    · exact Nat.mod_eq_zero_of_dvd (dvd_pow_self 2 (by omega))
  · rw [parts] at normal ⊢
    exact ⟨rfl, fun even => ⟨_, normal, even, rfl⟩⟩

/-- A number of a format with an exponent from the unit on is a whole number of units. -/
theorem valueOf_of_le {parts : Nat × Int} {exponent : Int} (h : exponent ≤ parts.2) :
    ∃ units : Nat, valueOf parts = units * 2 ^ exponent := by
  obtain ⟨shift, hshift⟩ := Int.le.dest h
  refine ⟨parts.1 * 2 ^ shift, ?_⟩
  rw [valueOf, ← hshift, zpow_add₀ (by norm_num), zpow_natCast]
  push_cast
  ring

/-- The number that a positive value is rounded to is nearer than any other one, or as near and
even. -/
theorem round_nearer (hp : 2 ≤ format.precision) (positive : 0 < value)
    (h : format.Represents number) (other : number ≠ format.round value) :
    |format.round value - value| < |number - value| ∨
      (|format.round value - value| = |number - value| ∧ format.IsEven (format.round value)) := by
  obtain ⟨leading, least, most⟩ := exists_leading positive
  obtain ⟨rounded, even⟩ := round_of_leading hp least most
  obtain ⟨parts, fits, bounded, rfl⟩ := h
  set unit : ℚ := 2 ^ format.unitOf leading with hunit
  have hpos : 0 < unit := by positivity
  have scaled : 0 ≤ value / unit := by positivity
  -- in units of the last place, every distance is one from a natural
  have distance (units : Nat) : |(units : ℚ) * unit - value| = |value / unit - units| * unit := by
    rw [← abs_of_pos hpos, ← abs_mul, abs_of_pos hpos, abs_sub_comm, sub_mul,
      div_mul_cancel₀ _ hpos.ne']
  have near := abs_sub_nearestNat_le scaled
  rcases le_or_gt (format.unitOf leading) parts.2 with coarse | fine
  · obtain ⟨units, hunits⟩ := valueOf_of_le coarse
    rw [hunits, rounded] at other ⊢
    have apart : units ≠ nearestNat (value / unit) := by
      rintro rfl
      exact other rfl
    have far := half_le_abs_sub scaled apart
    rw [distance, distance]
    rcases (near.trans far).lt_or_eq with nearer | same
    · exact .inl (mul_lt_mul_of_pos_right nearer hpos)
    · have tie : |value / unit - nearestNat (value / unit)| = 1 / 2 := by linarith
      have half := (nearestNat_spec scaled).resolve_left (by rw [tie]; exact lt_irrefl _)
      exact .inr ⟨by rw [same], rounded ▸ even half.2⟩
  · -- a number with a smaller exponent lies below the binade, whose power of two is nearer
    left
    have above : format.unitOf leading ≠ format.minExponent := by omega
    have power := pow_leading hp above
    have below : valueOf parts < 2 ^ leading := by
      have double : (2 : ℚ) ^ format.precision = (2 ^ (format.precision - 1) : Nat) * 2 := by
        rw [Nat.cast_pow, Nat.cast_ofNat, ← pow_succ, Nat.sub_add_cancel (by omega)]
      have step : (2 : ℚ) ^ parts.2 ≤ 2 ^ (format.unitOf leading - 1) :=
        zpow_le_zpow_right₀ (by norm_num) (by omega)
      calc valueOf parts < 2 ^ format.precision * 2 ^ parts.2 := by
            rw [valueOf]
            exact mul_lt_mul_of_pos_right (by exact_mod_cast fits) (by positivity)
        _ ≤ 2 ^ format.precision * 2 ^ (format.unitOf leading - 1) := by gcongr
        _ = 2 ^ leading := by
            rw [power, double, zpow_sub_one₀ (by norm_num)]
            ring
    have bottom : |format.round value - value| ≤ value - 2 ^ leading := by
      rw [rounded, ← abs_of_nonneg (sub_nonneg.mpr least), abs_sub_comm value, power]
      exact abs_nearestNat_mul_sub_le hpos positive.le _
    have far : value - 2 ^ leading < |valueOf parts - value| := by
      rw [abs_sub_comm]
      exact lt_of_lt_of_le (by linarith) (le_abs_self _)
    exact bottom.trans_lt far

/-- The result of rounding has a normal form. -/
theorem exists_normal_round (hp : 2 ≤ format.precision) (value : ℚ) :
    ∃ parts, format.IsNormal parts ∧ format.round value = valueOf parts :=
  ⟨_, nearest_isNormal format (by omega) _ value.den_pos, rfl⟩

/-- The result of rounding is a number of the format. -/
theorem represents_round (hp : 2 ≤ format.precision) (value : ℚ) :
    format.Represents (format.round value) := by
  obtain ⟨parts, normal, same⟩ := exists_normal_round hp value
  exact same ▸ normal.represents

/-- Zero is a number of every format. -/
theorem represents_zero (format : BinaryFormat) : format.Represents 0 :=
  ⟨(0, format.minExponent), Nat.two_pow_pos _, le_rfl, by simp [valueOf]⟩

/-- A number of the format is not negative. -/
theorem Represents.nonneg (h : format.Represents number) : 0 ≤ number := by
  obtain ⟨parts, _, _, rfl⟩ := h
  exact valueOf_nonneg parts

/-- A number of the format is not farther from a value than any other one, if it is what the value
is rounded to. -/
theorem abs_round_sub_le (hp : 2 ≤ format.precision) (h : 0 ≤ value)
    (held : format.Represents number) : |format.round value - value| ≤ |number - value| := by
  rcases h.eq_or_lt with rfl | positive
  · simp
  · by_cases same : number = format.round value
    · rw [same]
    · rcases round_nearer hp positive held same with nearer | ⟨tie, _⟩
      · exact nearer.le
      · exact tie.le

/-- A number of the format is left alone. -/
theorem round_of_represents (hp : 2 ≤ format.precision) (h : format.Represents value) :
    format.round value = value := by
  have near := abs_round_sub_le hp h.nonneg h
  rw [sub_self, abs_zero, abs_nonpos_iff, sub_eq_zero] at near
  exact near

/-- Rounding is monotone. -/
theorem round_mono (hp : 2 ≤ format.precision) {lower upper : ℚ} (h : 0 ≤ lower)
    (le : lower ≤ upper) : format.round lower ≤ format.round upper := by
  by_contra crossed
  rw [not_le] at crossed
  have low := (midpoint_le_iff crossed).mp (abs_round_sub_le hp h (represents_round hp upper))
  have high := (le_midpoint_iff crossed).mp
    (abs_round_sub_le hp (h.trans le) (represents_round hp lower))
  obtain rfl : lower = upper := by linarith
  exact lt_irrefl _ crossed

/-- Powers of two from the least exponent on are numbers of a format. -/
theorem represents_pow (hp : 2 ≤ format.precision) {exponent : Int}
    (h : format.minExponent ≤ exponent) : format.Represents (2 ^ exponent) :=
  ⟨(1, exponent), Nat.one_lt_two_pow (by omega), h, by simp [valueOf]⟩

/-- Naturals that fit into the bits of a format are numbers of it. -/
theorem represents_natCast (hp : 2 ≤ format.precision) (hz : format.minExponent ≤ 0) {n : Nat}
    (few : n ≤ 2 ^ format.precision) : format.Represents n := by
  rcases few.lt_or_eq with fits | rfl
  · exact ⟨(n, 0), fits, hz, by simp [valueOf]⟩
  · have power : format.Represents (2 ^ (format.precision : Int)) :=
      represents_pow hp (by omega)
    rwa [zpow_natCast, ← Nat.cast_ofNat, ← Nat.cast_pow] at power

/-- What is not greater than a power of two is not rounded to anything greater. -/
theorem round_le_pow (hp : 2 ≤ format.precision) {exponent : Int}
    (h : format.minExponent ≤ exponent) {value : ℚ} (least : 0 ≤ value)
    (most : value ≤ 2 ^ exponent) : format.round value ≤ 2 ^ exponent :=
  (round_mono hp least most).trans_eq (round_of_represents hp (represents_pow hp h))

/-- Rounding goes to the nearest number of the format. -/
theorem isNearest_round (hp : 2 ≤ format.precision) (h : 0 ≤ value) :
    format.IsNearest value (format.round value) := by
  have least := round_nonneg format value
  refine ⟨(abs_of_nonneg least).symm ▸ represents_round hp value, fun other held apart => ?_⟩
  rw [abs_of_nonneg least]
  rcases h.eq_or_lt with rfl | positive
  · rw [round_zero] at apart ⊢
    left
    simpa using apart
  · rcases le_or_gt 0 other with upper | lower
    · rw [abs_of_nonneg upper] at held
      exact round_nearer hp positive held apart
    · left
      calc |format.round value - value| ≤ |0 - value| :=
            abs_round_sub_le hp h (represents_zero format)
        _ = value := by rw [zero_sub, abs_neg, abs_of_pos positive]
        _ < |other - value| := by
            rw [abs_sub_comm]
            exact lt_of_lt_of_le (by linarith) (le_abs_self _)

/-- The nearest number to the opposite value is the opposite number. -/
theorem IsNearest.neg (h : format.IsNearest value number) :
    format.IsNearest (-value) (-number) := by
  refine ⟨by rw [abs_neg]; exact h.1, fun other held apart => ?_⟩
  have opposite := h.2 (-other) (by rwa [abs_neg]) (by rintro rfl; exact apart (neg_neg _).symm)
  have there : |-number - -value| = |number - value| := by
    rw [← abs_neg]
    congr 1
    ring
  have here : |-other - value| = |other - -value| := by
    rw [← abs_neg]
    congr 1
    ring
  rwa [there, abs_neg, ← here]

end BinaryFormat

end OrcRows
