import OrcRows.Proofs.Number.Rounded

/-!
# Rounding twice

Between the numbers that two values are rounded to there is a middle of two neighbours. A fine
format holds the middles of a coarse one, so rounding to the fine format never crosses a middle; at
worst it ends on one. So rounding to the fine format first and to the coarse one then differs from
rounding at once only if the fine number is such a middle and not the value itself.
-/

namespace OrcRows

namespace BinaryFormat

open Rounding

variable {format : BinaryFormat} {value number : ℚ} {parts : Nat × Int}

/-- The next number after a number of a format is a number of the format. -/
theorem IsNormal.represents_succ (hp : 2 ≤ format.precision) (normal : format.IsNormal parts) :
    format.Represents ((parts.1 + 1) * 2 ^ parts.2) := by
  obtain ⟨fits, least, -⟩ := normal
  by_cases inside : parts.1 + 1 < 2 ^ format.precision
  · exact ⟨(parts.1 + 1, parts.2), inside, least, by simp [valueOf]⟩
  · -- the significand has used up its bits, and the exponent is one more
    have double : 2 ^ format.precision = 2 ^ (format.precision - 1) * 2 := by
      rw [← pow_succ, Nat.sub_add_cancel (by omega)]
    have full : parts.1 + 1 = 2 ^ (format.precision - 1) * 2 := by omega
    have whole : ((parts.1 : ℚ) + 1) = 2 ^ (format.precision - 1) * 2 := by exact_mod_cast full
    refine ⟨(2 ^ (format.precision - 1), parts.2 + 1), ?_, by dsimp only; omega, ?_⟩
    · exact Nat.pow_lt_pow_right (by norm_num) (by omega)
    · rw [valueOf, whole, zpow_add_one₀ (by norm_num)]
      push_cast
      ring

/-- Between a number of a format and the next one there is no other. -/
theorem IsNormal.succ_le (hp : 2 ≤ format.precision) (normal : format.IsNormal parts)
    (held : format.Represents number) (above : valueOf parts < number) :
    (parts.1 + 1) * 2 ^ parts.2 ≤ number := by
  obtain ⟨⟨significand, exponent⟩, fits, least, rfl⟩ := held
  have unit : (0 : ℚ) < 2 ^ parts.2 := by positivity
  rcases le_or_gt parts.2 exponent with coarse | fine
  · obtain ⟨units, hunits⟩ : ∃ units : Nat, valueOf (significand, exponent) = units * 2 ^ parts.2 :=
      valueOf_of_le coarse
    rw [hunits, valueOf] at above
    have more : parts.1 < units := by exact_mod_cast lt_of_mul_lt_mul_right above unit.le
    rw [hunits]
    gcongr
    exact_mod_cast more
  · -- with a smaller exponent the significand would need one bit more than there are
    have leading := normal.leading.resolve_right (by dsimp only at least; omega)
    have double : 2 ^ format.precision = 2 ^ (format.precision - 1) * 2 := by
      rw [← pow_succ, Nat.sub_add_cancel (by omega)]
    have few : significand ≤ parts.1 * 2 := by
      dsimp only at fits
      omega
    have below : valueOf (significand, exponent) ≤ valueOf parts := by
      calc valueOf (significand, exponent) ≤ (parts.1 * 2 : Nat) * 2 ^ exponent := by
            rw [valueOf]
            gcongr
        _ ≤ (parts.1 * 2 : Nat) * 2 ^ (parts.2 - 1) := by
            gcongr
            · norm_num
            · omega
        _ = valueOf parts := by
            rw [valueOf, zpow_sub_one₀ (by norm_num)]
            push_cast
            ring
    exact absurd above (not_lt.mpr below)

/-- Of two nearest numbers that are not negative none is the lower one. -/
theorem IsNearest.not_lt_of_nonneg (hp : 2 ≤ format.precision) {lower upper : ℚ}
    (hl : format.IsNearest value lower) (hu : format.IsNearest value upper) (least : 0 ≤ lower) :
    ¬ lower < upper := by
  intro lt
  have positive : 0 < upper := least.trans_lt lt
  have choice := hl.2 upper hu.1 lt.ne'
  have choice' := hu.2 lower hl.1 lt.ne
  rw [abs_of_nonneg least] at choice
  rw [abs_of_pos positive] at choice'
  obtain ⟨same, parts, normal, even, rfl⟩ := choice.resolve_left (by
    rcases choice' with nearer | ⟨tie, _⟩
    · exact nearer.asymm
    · exact tie.le.not_gt)
  obtain ⟨_, parts', normal', even', rfl⟩ := choice'.resolve_left same.le.not_gt
  have middle := (le_midpoint_iff lt).mp same.le
  have middle' := (midpoint_le_iff lt).mp same.ge
  -- the upper number comes next after the lower one, so both cannot be even
  have next := normal.succ_le hp normal'.represents lt
  have between : valueOf parts < (parts.1 + 1) * 2 ^ parts.2 := by
    rw [valueOf]
    gcongr
    linarith
  have held := normal.represents_succ hp
  have reached : (parts.1 + 1) * 2 ^ parts.2 = valueOf parts' := by
    by_contra apart
    have strict := lt_of_le_of_ne next apart
    have near := hl.2 _ ((abs_of_nonneg held.nonneg).symm ▸ held) between.ne'
    have := (le_midpoint_iff between).mp (near.elim le_of_lt fun tie => tie.1.le)
    linarith
  have double : 2 ^ format.precision = 2 ^ (format.precision - 1) * 2 := by
    rw [← pow_succ, Nat.sub_add_cancel (by omega)]
  have succ : format.IsNormal (parts.1 + 1, parts.2) :=
    ⟨by have := normal.fits; dsimp only; omega, normal.least,
      normal.leading.imp (fun h => h.trans (Nat.le_succ _)) id⟩
  have same' := succ.eq_of_value (by omega) normal' (by
    rw [← valueOf, ← valueOf, ← reached, valueOf]
    push_cast
    rfl)
  rw [← same'] at even'
  dsimp only at even'
  omega

/-- There is only one nearest number. -/
theorem IsNearest.unique (hp : 2 ≤ format.precision) {first second : ℚ}
    (h : format.IsNearest value first) (h' : format.IsNearest value second) : first = second := by
  wlog lt : first < second generalizing first second
  · rcases (not_lt.mp lt).eq_or_lt with same | lt'
    · exact same.symm
    · exact (this h' h lt').symm
  exfalso
  rcases le_or_gt 0 first with least | below
  · exact h.not_lt_of_nonneg hp h' least lt
  rcases le_or_gt second 0 with most | above
  · exact h'.neg.not_lt_of_nonneg hp h.neg (by linarith) (by linarith)
  · have zero : format.Represents |(0 : ℚ)| := abs_zero (α := ℚ) ▸ represents_zero format
    have low := (le_midpoint_iff below).mp
      ((h.2 0 zero below.ne').elim le_of_lt fun tie => tie.1.le)
    have high := (midpoint_le_iff above).mp
      ((h'.2 0 zero above.ne).elim le_of_lt fun tie => tie.1.le)
    linarith

/-- The nearest number is what a value is rounded to. -/
theorem isNearest_iff (hp : 2 ≤ format.precision) (h : 0 ≤ value) :
    format.IsNearest value number ↔ format.round value = number := by
  constructor
  · exact fun nearest => (isNearest_round hp h).unique hp nearest
  · rintro rfl
    exact isNearest_round hp h

/-- Between two values that are rounded to different numbers lies the middle of two neighbours. -/
theorem exists_halfway_between (hp : 2 ≤ format.precision) {lower upper : ℚ} (hl : 0 ≤ lower)
    (hu : 0 ≤ upper) (apart : format.round lower < format.round upper) :
    ∃ middle, format.IsHalfway middle ∧ lower ≤ middle ∧ middle ≤ upper := by
  obtain ⟨parts, normal, rounded⟩ := exists_normal_round hp lower
  have next := normal.succ_le hp (represents_round hp upper) (rounded ▸ apart)
  have between : valueOf parts < (parts.1 + 1) * 2 ^ parts.2 := by
    rw [valueOf]
    gcongr
    linarith
  have low := abs_round_sub_le hp hl (normal.represents_succ hp)
  have high := abs_round_sub_le hp hu (represents_round hp lower)
  rw [rounded, le_midpoint_iff between, valueOf] at low
  rw [midpoint_le_iff apart, rounded, valueOf] at high
  exact ⟨_, ⟨parts, normal, rfl⟩, by linarith, by linarith⟩

/-- A format with more bits and smaller units holds the middles of neighbours. -/
theorem IsHalfway.represents {fine : BinaryFormat} (bits : format.precision < fine.precision)
    (units : fine.minExponent < format.minExponent) (h : format.IsHalfway value) :
    fine.Represents value := by
  obtain ⟨parts, normal, rfl⟩ := h
  refine ⟨(2 * parts.1 + 1, parts.2 - 1), ?_, ?_, ?_⟩
  · have more : 2 ^ (format.precision + 1) ≤ 2 ^ fine.precision :=
      Nat.pow_le_pow_right (by norm_num) bits
    have := normal.fits
    dsimp only
    omega
  · have := normal.least
    dsimp only
    omega
  · rw [valueOf, zpow_sub_one₀ (by norm_num)]
    push_cast
    ring

/-- Rounding to a finer format first makes a difference only if it ends halfway between two
neighbours of the coarse format. -/
theorem round_round {fine : BinaryFormat} (hp : 2 ≤ format.precision)
    (bits : format.precision < fine.precision) (units : fine.minExponent < format.minExponent)
    (h : 0 ≤ value) :
    format.round (fine.round value) = format.round value ∨
      (fine.round value ≠ value ∧ format.IsHalfway (fine.round value)) := by
  rcases eq_or_ne (format.round (fine.round value)) (format.round value) with same | apart
  · exact .inl same
  have hp' : 2 ≤ fine.precision := by omega
  have first := round_nonneg fine value
  refine .inr ⟨fun exact_ => apart (by rw [exact_]), ?_⟩
  rcases apart.lt_or_gt with below | above
  · obtain ⟨middle, halfway, low, high⟩ := exists_halfway_between hp first h below
    have stays := round_of_represents hp' (halfway.represents bits units)
    have reached := round_mono hp' (first.trans low) high
    rw [stays] at reached
    exact le_antisymm low reached ▸ halfway
  · obtain ⟨middle, halfway, low, high⟩ := exists_halfway_between hp h first above
    have stays := round_of_represents hp' (halfway.represents bits units)
    have reached := round_mono hp' h low
    rw [stays] at reached
    exact le_antisymm reached high ▸ halfway

/-- Rounding to 64 bits first makes a difference to rounding to 32 bits only if it ends halfway
between two neighbours. -/
theorem round_single_double (h : 0 ≤ value) :
    single.round (double.round value) = single.round value ∨
      (double.round value ≠ value ∧ single.IsHalfway (double.round value)) :=
  round_round (by decide) (by decide) (by decide) h

end BinaryFormat

end OrcRows
