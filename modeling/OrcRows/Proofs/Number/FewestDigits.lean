import OrcRows.Proofs.Number.PowersOfTwo
import OrcRows.Proofs.Number.ShownDigits

/-!
# The text of a 32-bit number has the fewest digits

The text of a 32-bit number is that of the first trial that comes back, and shows no more
significant digits than the trial has. Among the decimals of fewer digits the trials are the nearest
ones, and if none of these is read as the number, no other one is; only three powers of two have a
shorter decimal, which is not the nearest one.
-/

namespace OrcRows

open Rounding

namespace Scientific

variable {num den : Nat} {negative : Bool} {target : Binary64}

/-- A point of a grid that reads back is found if it is less than a unit away. -/
theorem onGrid?_isSome (hd : 0 < den) {units : Nat} {exponent : Int}
    (reads : (Scientific.mk units exponent).toBinary64 negative = target)
    (near : |(units : ℚ) * 10 ^ exponent - num / den| < 10 ^ exponent) :
    (onGrid? target negative num den exponent).isSome = true := by
  obtain ⟨least, most⟩ := unitsBelow_spec hd num exponent
  have unit : (0 : ℚ) < 10 ^ exponent := by positivity
  obtain ⟨low, high⟩ := abs_lt.mp near
  have above : unitsBelow num den exponent < units + 1 := by
    have : (unitsBelow num den exponent : ℚ) * 10 ^ exponent <
        (units + 1 : Nat) * 10 ^ exponent := by
      push_cast
      linarith
    exact_mod_cast lt_of_mul_lt_mul_right this unit.le
  have below : units < unitsBelow num den exponent + 2 := by
    have : (units : ℚ) * 10 ^ exponent <
        (unitsBelow num den exponent + 2 : Nat) * 10 ^ exponent := by
      push_cast
      linarith
    exact_mod_cast lt_of_mul_lt_mul_right this unit.le
  have among : units = unitsBelow num den exponent ∨ units = unitsBelow num den exponent + 1 := by
    omega
  rw [onGrid?]
  dsimp only
  rw [List.find?_isSome]
  refine ⟨⟨units, exponent⟩, ?_, decide_eq_true reads⟩
  rw [unitsBelow] at among
  split <;> simp only [List.mem_cons, List.not_mem_nil, or_false, Scientific.mk.injEq, and_true] <;>
    omega

/-- A ratio has fewer units on the grid of some digits than these digits can count. -/
theorem unitsBelow_lt (hn : 0 < num) (hd : 0 < den) (count : Nat) :
    unitsBelow num den (decade num den - count) < 10 ^ (count + 1) := by
  have ten : (10 : ℚ) ≠ 0 := by norm_num
  have unit : (0 : ℚ) < 10 ^ (decade num den - count) := by positivity
  have least := (unitsBelow_spec hd num (decade num den - count)).1
  have top : (10 : ℚ) ^ (decade num den + 1) =
      (10 ^ (count + 1) : Nat) * 10 ^ (decade num den - count) := by
    rw [Nat.cast_pow, Nat.cast_ofNat, ← zpow_natCast, ← zpow_add₀ ten]
    congr 1
    push_cast
    ring
  have few := least.trans_lt ((decade_spec hn hd).2.trans_eq top)
  exact_mod_cast lt_of_mul_lt_mul_right few unit.le

/-- The first of the numbers from zero on with some property is not above any other one. -/
theorem le_of_range_eq {bound first count : Nat} {before after : List Nat}
    (split : List.range bound = before ++ first :: after) (few : count < bound)
    (later : count ∉ before) : first ≤ count := by
  have place : (List.range bound)[before.length]? = some first := by
    rw [split]
    simp
  obtain ⟨_, same⟩ := List.getElem?_eq_some_iff.mp place
  rw [List.getElem_range] at same
  by_contra sooner
  apply later
  have inside : count < before.length := by omega
  have there : (List.range bound)[count]? = some count := by
    rw [List.getElem?_range few]
  rw [split, List.getElem?_append_left inside] at there
  exact List.mem_of_getElem? there

/-- If a decimal is found on the grid of some digits, the shortest one has no more digits. -/
theorem shortest_digits_lt (hn : 0 < num) (hd : 0 < den) {count : Nat} (few : count < 17)
    (found : (onGrid? target negative num den (decade num den - count)).isSome = true) :
    (shortest target negative num den).digits < 10 ^ (count + 1) := by
  rw [shortest]
  apply digits_trimZeros_lt (by norm_num) (by omega)
  cases search : (List.range 17).findSome? fun (count : Nat) =>
      onGrid? target negative num den (decade num den - count) with
  | none =>
    have missing := List.findSome?_eq_none_iff.mp search count (List.mem_range.mpr few)
    rw [missing] at found
    contradiction
  | some decimal =>
    obtain ⟨before, first, after, split, ongrid, earlier⟩ := List.findSome?_eq_some_iff.mp search
    have sooner : first ≤ count := le_of_range_eq split few fun among => by
      rw [earlier count among] at found
      contradiction
    have units : decimal.digits ≤ unitsBelow num den (decade num den - first) + 1 :=
      (onGrid?_eq_some ongrid).2.2
    have fewer := unitsBelow_lt hn hd first
    have power : 10 ^ (first + 1) ≤ 10 ^ (count + 1) :=
      Nat.pow_le_pow_right (by norm_num) (by omega)
    rw [Option.getD_some]
    omega

/-- A ratio rounded to some digits has no more than these digits, or is the power of ten after
them. -/
theorem ofRatio_digits_le (hn : 0 < num) (hd : 0 < den) (count : Nat) :
    (ofRatio num den count).digits ≤ 10 ^ count := by
  have ten : (10 : ℚ) ≠ 0 := by norm_num
  have unit : (0 : ℚ) < 10 ^ lastPlace num den count := by positivity
  have positive := scaleDown_pos (show 0 < 10 by norm_num) hd num (lastPlace num den count)
  have positive' : (0 : ℚ) < (scaleDown 10 num den (lastPlace num den count)).2 := by
    exact_mod_cast positive
  have value := quotient_scaleDown (show 0 < 10 by norm_num) hd num (lastPlace num den count)
  have few : quotient (scaleDown 10 num den (lastPlace num den count)) < (10 ^ count : Nat) := by
    rw [value, Nat.cast_ofNat, div_lt_iff₀ unit, Nat.cast_pow, Nat.cast_ofNat, ← zpow_natCast,
      ← zpow_add₀ ten]
    refine (decade_spec hn hd).2.trans_eq ?_
    rw [lastPlace]
    congr 1
    ring
  rw [quotient, div_lt_iff₀ positive'] at few
  exact halfEven_le positive (by exact_mod_cast few)

/-- The power of ten above a ratio, in units of the last place. -/
theorem pow_decade_succ (num den count : Nat) :
    (10 : ℚ) ^ (decade num den + 1) = 10 ^ count * 10 ^ lastPlace num den count := by
  rw [← zpow_natCast, ← zpow_add₀ (by norm_num), lastPlace]
  congr 1
  ring

section Near

variable {num' den' count : Nat}

/-- A decimal of fewer digits than its grid has is not near the next decade. -/
theorem digits_eq_of_reached {digits : Nat} {unit reached : ℚ} (hu : 0 < unit)
    (few : count ≤ 9) (bounded : digits ≤ 10 ^ count) (next : 10 ^ count * unit ≤ reached)
    (near : |reached - digits * unit| ≤ digits * unit / 2 ^ 53) : digits = 10 ^ count := by
  by_contra fewer
  have less : (digits : ℚ) + 1 ≤ 10 ^ count := by
    exact_mod_cast (lt_of_le_of_ne bounded fewer : digits < 10 ^ count)
  have small : (10 : ℚ) ^ count ≤ 10 ^ 9 := pow_le_pow_right₀ (by norm_num) few
  have above := (abs_le.mp near).2
  have more : ((digits : ℚ) + 1) * unit ≤ 10 ^ count * unit :=
    mul_le_mul_of_nonneg_right less hu.le
  have tiny : (digits : ℚ) * unit / 2 ^ 53 < 1 * unit := by
    rw [mul_div_right_comm]
    refine mul_lt_mul_of_pos_right ?_ hu
    rw [div_lt_one (by positivity)]
    exact lt_of_lt_of_le (by linarith) (by norm_num : (10 : ℚ) ^ 9 ≤ 2 ^ 53)
  linarith

/-- A ratio near a decimal of a few digits has the decade of the decimal, or that below if the
decimal is a power of ten. So the decimal is a whole number of units of the last of as many digits
of the ratio. -/
theorem exists_units_of_near (hn : 0 < num) (hd : 0 < den) (hn' : 0 < num') (hd' : 0 < den')
    (some : 1 ≤ count) (few : count ≤ 9)
    (near : |(num' : ℚ) / den' - (ofRatio num den count).value| ≤
      (ofRatio num den count).value / 2 ^ 53) :
    ∃ units : Nat, (ofRatio num den count).value = units * 10 ^ lastPlace num' den' count := by
  have ten : (10 : ℚ) ≠ 0 := by norm_num
  have unit : (0 : ℚ) < 10 ^ lastPlace num den count := by positivity
  have top := pow_decade_succ num den count
  obtain ⟨least, -⟩ := decade_spec hn' hd'
  set digits := (ofRatio num den count).digits with hdigits
  have decimal : (ofRatio num den count).value = digits * 10 ^ lastPlace num den count := rfl
  rcases le_or_gt (decade num' den') (decade num den) with below | carried
  · obtain ⟨shift, hshift⟩ := Int.le.dest
      (show lastPlace num' den' count ≤ lastPlace num den count by
        rw [lastPlace, lastPlace]
        omega)
    refine ⟨digits * 10 ^ shift, ?_⟩
    rw [decimal, ← hshift, zpow_add₀ ten, zpow_natCast]
    push_cast
    ring
  · -- the ratio has reached the next decade, so the decimal has been rounded up to its power of ten
    have reached : (10 : ℚ) ^ (decade num den + 1) ≤ num' / den' :=
      (zpow_le_zpow_right₀ (by norm_num) (by omega)).trans least
    have full : digits = 10 ^ count :=
      digits_eq_of_reached unit few (ofRatio_digits_le hn hd count) (top ▸ reached) near
    have value : (ofRatio num den count).value = 10 ^ (decade num den + 1) := by
      rw [decimal, top, full]
      push_cast
      rfl
    have next : decade num' den' < decade num den + 1 + 1 := by
      rw [value] at near
      have above := (abs_le.mp near).2
      have power : (0 : ℚ) < 10 ^ (decade num den + 1) := by positivity
      have twice : (10 : ℚ) ^ (decade num den + 1 + 1) = 10 ^ (decade num den + 1) * 10 :=
        zpow_add_one₀ ten _
      refine (zpow_lt_zpow_iff_right₀ (by norm_num : (1 : ℚ) < 10)).mp ?_
      linarith
    obtain ⟨shift, hshift⟩ := Int.le.dest
      (show lastPlace num' den' count ≤ decade num den + 1 by
        rw [lastPlace]
        omega)
    refine ⟨10 ^ shift, ?_⟩
    rw [value, ← hshift, zpow_add₀ ten, zpow_natCast]
    push_cast
    ring

/-- If the decimal of a few digits of a ratio is read as a number near it, the shortest decimal of
that number has no more digits. -/
theorem shortest_digits_lt_of_near (hn : 0 < num) (hd : 0 < den) (hn' : 0 < num') (hd' : 0 < den')
    (some : 1 ≤ count) (few : count ≤ 9)
    (near : |(num' : ℚ) / den' - (ofRatio num den count).value| ≤
      (ofRatio num den count).value / 2 ^ 53)
    (reads : (ofRatio num den count).toBinary64 negative = target) :
    (shortest target negative num' den').digits < 10 ^ count := by
  obtain ⟨units, whole⟩ := exists_units_of_near hn hd hn' hd' some few near
  obtain ⟨shorter, rfl⟩ := Nat.exists_eq_add_of_le' some
  have place : lastPlace num' den' (shorter + 1) = decade num' den' - shorter := by
    rw [lastPlace]
    push_cast
    ring
  have unit : (0 : ℚ) < 10 ^ lastPlace num' den' (shorter + 1) := by positivity
  have same : (Scientific.mk units (lastPlace num' den' (shorter + 1))).value =
      (ofRatio num den (shorter + 1)).value := whole.symm
  have reads' : (Scientific.mk units (lastPlace num' den' (shorter + 1))).toBinary64 negative =
      target := (toBinary64_congr same negative).trans reads
  have small : (10 : ℚ) ^ (shorter + 1) ≤ 10 ^ 9 := pow_le_pow_right₀ (by norm_num) few
  have below : (num' : ℚ) / den' < 10 ^ 9 * 10 ^ lastPlace num' den' (shorter + 1) :=
    (decade_spec hn' hd').2.trans_le
      ((pow_decade_succ num' den' (shorter + 1)).trans_le (by gcongr))
  apply shortest_digits_lt hn' hd' (by omega)
  rw [← place]
  apply onGrid?_isSome hd' reads'
  rw [← whole, abs_sub_comm]
  have low := (abs_le.mp near).1
  linarith

end Near

end Scientific

namespace Binary64

open BinaryFormat

variable {negative : Bool} {m : Nat} {q : Int} {canonical : IsCanonical m q}

/-- What a 32-bit number rounded to some digits is read as shows no more digits. -/
theorem significantDigits_toDigits_le
    (single : (Binary64.finite negative m q canonical).IsSingle) (positive : 0 < m) {count : Nat}
    (some : 1 ≤ count) (few : count ≤ 9) :
    significantDigits ((Binary64.finite negative m q canonical).toDigits count).text ≤ count := by
  have hn := ratioOf_fst_pos Nat.two_pos positive q
  have hd := ratioOf_pos Nat.two_pos m q
  have value := div_ratioOf_two m q
  obtain ⟨least, most⟩ := IsSingle.bounds single positive
  have near := Scientific.abs_value_ofRatio_sub_le hn hd count
  have number : (0 : ℚ) < m * 2 ^ q := by positivity
  have share : (10 : ℚ) / 10 ^ count ≤ 1 := by
    rw [div_le_one (by positivity)]
    exact le_self_pow₀ (by norm_num) (by omega)
  rw [value] at near
  have rough : |(Scientific.ofRatio (ratioOf 2 m q).1 (ratioOf 2 m q).2 count).value - m * 2 ^ q| ≤
      (m : ℚ) * 2 ^ q * 2⁻¹ := by
    have : (m : ℚ) * 2 ^ q * (10 / 10 ^ count) ≤ m * 2 ^ q * 1 := by gcongr
    linarith
  obtain ⟨m', q', canonical', read, near'⟩ := exists_near_toBinary64 negative least most rough
  have positive' : 0 < m' := by
    have low := (abs_le.mp rough).1
    have low' := (abs_le.mp near').1
    exact pos_of_cast_mul_pos (show (0 : ℚ) < m' * 2 ^ q' by linarith)
  have trial : (Binary64.finite negative m q canonical).toDigits count =
      .finite negative m' q' canonical' := by
    rw [← read, toDigits, if_neg positive.ne']
  have shorter := Scientific.shortest_digits_lt_of_near hn hd
    (ratioOf_fst_pos Nat.two_pos positive' q') (ratioOf_pos Nat.two_pos m' q') some few
    (by rw [div_ratioOf_two]; exact near') read
  rw [trial, text, textIn, if_neg positive'.ne', significantDigits, FloatLayout.shownDigits_sign,
    ← significantDigits]
  exact significantDigits_decimalText_le .standard some shorter

/-- The text of a 32-bit number is that of the first trial that comes back. -/
theorem exists_first_trial {x : Binary64} (finite : x.isFinite = true) (single : x.IsSingle) :
    ∃ count : Nat, 1 ≤ count ∧ count ≤ 9 ∧ x.singleText = (x.toDigits count).text ∧
      ∀ fewer, 1 ≤ fewer → fewer < count → (x.toDigits fewer).toSingle ≠ x := by
  obtain ⟨_, nine⟩ := toSingle_toDigits finite single
  have number : x ≠ .nan := by
    rintro rfl
    contradiction
  simp only [singleText, if_pos finite, List.find?_map]
  cases search : (List.range 9).find? ((fun candidate => candidate.toSingle.sameNumber x) ∘
      fun count => x.toDigits (count + 1)) with
  | none =>
    have missed := List.find?_range_eq_none.mp search 8 (by norm_num)
    simp only [Function.comp_apply, nine, sameNumber_self number] at missed
    contradiction
  | some count =>
    obtain ⟨_, inside, earlier⟩ := List.find?_range_eq_some.mp search
    have few := List.mem_range.mp inside
    refine ⟨count + 1, by omega, by omega, rfl, fun fewer some sooner back => ?_⟩
    have missed := earlier (fewer - 1) (by omega)
    rw [Function.comp_apply, Nat.sub_add_cancel some, back, sameNumber_self number] at missed
    contradiction

/-- A 32-bit number other than zero uses all bits of the 64-bit format, and is not far from one. -/
theorem IsSingle.leading (single : (Binary64.finite negative m q canonical).IsSingle)
    (positive : 0 < m) : 2 ^ 52 ≤ m ∧ -201 ≤ q ∧ q ≤ 75 := by
  obtain ⟨least, most⟩ := IsSingle.bounds single positive
  obtain ⟨fits, -, -, leading⟩ := canonical
  have two : (1 : ℚ) < 2 := by norm_num
  have bits : (m : ℚ) < 2 ^ 53 := by exact_mod_cast fits
  have above : (2 : ℚ) ^ (-149 : Int) < 2 ^ (53 + q) := by
    rw [zpow_add₀ (by norm_num)]
    exact least.trans_lt (mul_lt_mul_of_pos_right (by exact_mod_cast bits) (by positivity))
  have exponent := (zpow_lt_zpow_iff_right₀ two).mp above
  have full : 2 ^ 52 ≤ m := leading.resolve_right (by omega)
  have below : (2 : ℚ) ^ (52 + q) < 2 ^ (128 : Int) := by
    rw [zpow_add₀ (by norm_num)]
    refine lt_of_le_of_lt (mul_le_mul_of_nonneg_right ?_ (by positivity)) most
    exact_mod_cast full
  have exponent' := (zpow_lt_zpow_iff_right₀ two).mp below
  exact ⟨full, by omega, by omega⟩

/-- If any decimal of up to eight digits is read as a 32-bit number, the nearest one with as many
digits is, except for three powers of two. -/
theorem reread_ofRatio (single : (Binary64.finite negative m q canonical).IsSingle)
    (positive : 0 < m) (regular : m = 2 ^ 52 → q + 52 ∉ ([-96, 87, 90] : List Int)) {count : Nat}
    (some : 1 ≤ count) (bounded : count ≤ 8) {decimal : Scientific}
    (few : decimal.digits < 10 ^ count) (back : reread decimal.value = valueOf (m, q)) :
    reread (Scientific.ofRatio (ratioOf 2 m q).1 (ratioOf 2 m q).2 count).value =
      valueOf (m, q) := by
  obtain ⟨full, least, most⟩ := IsSingle.leading single positive
  rcases full.eq_or_lt with rfl | more
  · exact reread_ofRatio_power least most (regular rfl) some bounded few back
  · have hn := ratioOf_fst_pos Nat.two_pos positive q
    have hd := ratioOf_pos Nat.two_pos m q
    have nonneg (decimal : Scientific) : 0 ≤ decimal.value := by
      rw [Scientific.value]
      positivity
    have near := Scientific.abs_value_ofRatio_sub_le_of_lt hn hd some few
    rw [div_ratioOf_two] at near
    have above : (2 : ℚ) ^ (52 + q) < valueOf (m, q) := by
      rw [zpow_add₀ (by norm_num), valueOf]
      exact mul_lt_mul_of_pos_right (by exact_mod_cast more) (by positivity)
    have below : valueOf (m, q) < 2 ^ (52 + q + 1) := by
      rw [show 52 + q + 1 = 53 + q by ring, zpow_add₀ (by norm_num), valueOf]
      exact mul_lt_mul_of_pos_right (by exact_mod_cast canonical.1) (by positivity)
    exact reread_of_near (IsSingle.represents single) (by omega) above below (nonneg _) near back

/-- The text of zero has no significant digits. -/
theorem significantDigits_singleText_zero {canonical : IsCanonical 0 q}
    (single : (Binary64.finite negative 0 q canonical).IsSingle) :
    significantDigits (Binary64.finite negative 0 q canonical).singleText = 0 := by
  obtain ⟨count, -, -, shown, -⟩ := exists_first_trial rfl single
  rw [shown, toDigits, if_pos rfl, text, textIn, if_pos rfl, significantDigits,
    FloatLayout.shownDigits_sign]
  decide

/-- The text of a 32-bit number has the fewest digits: a decimal of fewer significant digits is not
read as the number, and if the number is the nearest one to the decimal, that is because the 64-bit
number that the decimal is read as first lies halfway between two neighbours. Three powers of two
are exceptions. -/
theorem singleText_fewest {x : Binary64} {number : ℚ} (single : x.IsSingle)
    (shows : x.toRat? = some number)
    (regular : ∀ exponent ∈ ([-96, 87, 90] : List Int), |number| ≠ 2 ^ exponent)
    {decimal : Scientific} {count : Nat} (few : decimal.digits < 10 ^ count)
    (fewer : count < significantDigits x.singleText) (other : Bool) :
    (decimal.toBinary64 other).toSingle ≠ x ∧
      (BinaryFormat.single.IsNearest (signed other decimal.value) number →
        ∃ wide, double.IsNearest decimal.value wide ∧ wide ≠ decimal.value ∧
          BinaryFormat.single.IsHalfway wide) := by
  cases x with
  | nan => cases shows
  | infinite negative => cases shows
  | finite negative m q canonical =>
    rw [toRat?_finite] at shows
    cases shows
    rw [abs_signed, abs_of_nonneg (valueOf_nonneg _)] at regular
    have nonneg : 0 ≤ decimal.value := by
      rw [Scientific.value]
      positivity
    rcases Nat.eq_zero_or_pos m with rfl | positive
    · rw [significantDigits_singleText_zero single] at fewer
      exact absurd fewer (Nat.not_lt_zero count)
    obtain ⟨trial, some, bounded, shown, earlier⟩ := exists_first_trial rfl single
    rw [shown] at fewer
    have sooner : count < trial :=
      fewer.trans_le (significantDigits_toDigits_le single positive some bounded)
    have number : 0 < valueOf (m, q) := by
      rw [valueOf]
      positivity
    have missed : reread decimal.value ≠ valueOf (m, q) := by
      intro back
      have some' : 1 ≤ count := by
        by_contra none
        obtain rfl : count = 0 := by omega
        have zero : decimal.digits = 0 := by simpa using few
        rw [Scientific.value, zero, Nat.cast_zero, zero_mul, reread, round_zero, round_zero] at back
        exact number.ne back
      have regular' : m = 2 ^ 52 → q + 52 ∉ ([-96, 87, 90] : List Int) := by
        rintro rfl exception
        apply regular _ exception
        rw [valueOf, add_comm, zpow_add₀ (by norm_num)]
        norm_num
      have again := reread_ofRatio single positive regular' some' (by omega) few back
      apply earlier count some' sooner
      rw [toDigits, if_neg positive.ne']
      exact (toSingle_toBinary64_iff single _).mpr ⟨rfl, again⟩
    refine ⟨fun read => missed ((toSingle_toBinary64_iff single decimal).mp read).2,
      fun nearest => ⟨double.round decimal.value, isNearest_round (by decide) nonneg, ?_⟩⟩
    have direct : BinaryFormat.single.round decimal.value = valueOf (m, q) := by
      have same := nearest.unique (by decide)
        (isNearest_signed (isNearest_round (by decide) nonneg) other)
      have magnitudes := congrArg abs same
      rw [abs_signed, abs_signed, abs_of_pos number, abs_of_nonneg (round_nonneg _ _)] at magnitudes
      exact magnitudes.symm
    exact (round_single_double nonneg).resolve_left fun once => missed (once.trans direct)

/-- A number of 25 bits, whose text shows all its eight digits. -/
theorem singleText_fewest_power :
    (Binary64.finite false (2 ^ 52) (-28) (by decide)).IsSingle ∧
      (Binary64.finite false (2 ^ 52) (-28) (by decide)).toRat? = some 16777216 ∧
      (∀ exponent ∈ ([-96, 87, 90] : List Int), |(16777216 : ℚ)| ≠ 2 ^ exponent) ∧
      (Scientific.mk 1677722 1).digits < 10 ^ 7 ∧
      7 < significantDigits (Binary64.finite false (2 ^ 52) (-28) (by decide)).singleText ∧
      ((Scientific.mk 1677722 1).toBinary64 false).toSingle ≠
        .finite false (2 ^ 52) (-28) (by decide) ∧
      (BinaryFormat.single.IsNearest (signed false (Scientific.mk 1677722 1).value) 16777216 →
        ∃ wide, double.IsNearest (Scientific.mk 1677722 1).value wide ∧
          wide ≠ (Scientific.mk 1677722 1).value ∧ BinaryFormat.single.IsHalfway wide) := by
  have single : (Binary64.finite false (2 ^ 52) (-28) (by decide)).IsSingle :=
    ⟨2 ^ 23, 1, by decide, by decide, by decide, by norm_num⟩
  have shows : (Binary64.finite false (2 ^ 52) (-28) (by decide)).toRat? = some 16777216 := by
    decide +kernel
  have regular : ∀ exponent ∈ ([-96, 87, 90] : List Int), |(16777216 : ℚ)| ≠ 2 ^ exponent := by
    simp only [List.mem_cons, List.not_mem_nil, or_false, forall_eq_or_imp, forall_eq]
    norm_num
  have few : (Scientific.mk 1677722 1).digits < 10 ^ 7 := by decide
  have fewer : 7 < significantDigits
      (Binary64.finite false (2 ^ 52) (-28) (by decide)).singleText := by
    decide +kernel
  exact ⟨single, shows, regular, few, fewer, singleText_fewest single shows regular few fewer false⟩

/-- The text of this power of two shows nine digits, though eight digits are enough. -/
theorem singleText_not_fewest :
    (Binary64.finite false (2 ^ 52) 38 (by decide)).IsSingle ∧
      (Binary64.finite false (2 ^ 52) 38 (by decide)).toRat? = some (2 ^ 90) ∧
      (Binary64.finite false (2 ^ 52) 38 (by decide)).singleText = "1.23794004e+27" ∧
      significantDigits "1.23794004e+27" = 9 ∧
      (Scientific.mk 12379401 20).digits < 10 ^ 8 ∧
      ((Scientific.mk 12379401 20).toBinary64 false).toSingle =
        .finite false (2 ^ 52) 38 (by decide) ∧
      BinaryFormat.single.IsNearest (Scientific.mk 12379401 20).value (2 ^ 90) := by
  refine ⟨⟨2 ^ 23, 67, by decide, by decide, by decide, by norm_num⟩, by decide +kernel,
    by decide +kernel, by decide +kernel, by decide, by decide +kernel, ?_⟩
  have value : (Scientific.mk 12379401 20).value =
      (1237940100000000000000000000 : Nat) / (1 : Nat) := by
    norm_num [Scientific.value]
  have parts : BinaryFormat.single.nearest 1237940100000000000000000000 1 = (2 ^ 23, 67) := by
    decide +kernel
  rw [isNearest_iff (by decide) (by rw [value]; positivity), value, ← valueOf_nearest Nat.one_pos,
    parts, valueOf]
  norm_num

end Binary64

end OrcRows
