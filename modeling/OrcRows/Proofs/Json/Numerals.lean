import OrcRows.JsonForm
import OrcRows.Proofs.Json.Grammar
import OrcRows.Proofs.Number.FloatReading

/-!
# Numbers are written as JSON numerals

Integers and finite floating-point numbers are written as numerals of JSON: no needless zero stands
in front, and a point has digits on both sides.
-/

namespace OrcRows

open Rounding

namespace Json

section Digits

/-- The digits of a positive natural do not begin with a zero. -/
theorem exists_digits_eq {n : Nat} (positive : 0 < n) :
    ∃ first rest, digits n = first :: rest ∧ first ≠ '0' := by
  have single : ∀ value < 10, 0 < value → value.digitChar ≠ '0' := by decide
  induction n using Nat.strongRecOn with
  | _ n ih =>
    rw [digits, Nat.toDigits_eq_if (by decide)]
    split
    case isTrue small => exact ⟨_, [], rfl, single n small positive⟩
    case isFalse large =>
      obtain ⟨first, rest, shown, leading⟩ := ih (n / 10) (Nat.div_lt_self positive (by decide))
        (Nat.div_pos (Nat.le_of_not_lt large) (by decide))
      rw [digits] at shown
      exact ⟨first, _, by rw [shown, List.cons_append], leading⟩

/-- The digits of a natural are a whole part. -/
theorem isWhole_digits (n : Nat) : IsWhole (digits n) := by
  rcases Nat.eq_zero_or_pos n with rfl | positive
  · exact .zero
  · obtain ⟨first, rest, shown, leading⟩ := exists_digits_eq positive
    rw [shown]
    exact .positive leading fun c member => Decimal.isDigit_of_mem_digits (shown ▸ member)

/-- A whole part behind a sign is a numeral. -/
theorem IsWhole.isNumeral {whole : List Char} (h : IsWhole whole) (sign : List Char)
    (signed : sign ∈ [[], ['-']]) : IsNumeral (sign ++ whole) := by
  have numeral := IsNumeral.mk signed h .none .none
  rwa [List.append_nil, List.append_nil] at numeral

/-- An integer is written as a numeral. -/
theorem isNumeral_int (value : Int) : IsNumeral (toString value).toList := by
  have whole (n : Nat) : IsWhole n.repr.toList := by
    rw [Nat.toList_repr]
    exact isWhole_digits n
  rw [Int.toString_eq_repr, Int.repr_eq_if]
  split
  · exact (whole _).isNumeral [] (by decide)
  · rw [String.toList_append]
    exact (whole _).isNumeral ['-'] (by decide)

end Digits

section Floats

/-- A sign of a number. -/
theorem sign_mem (negative : Bool) : (FloatLayout.sign negative).toList ∈ [[], ['-']] := by
  cases negative <;> decide

/-- Digits that do not begin with a zero are a whole part and places in positional notation. -/
theorem exists_positional {first : Char} {rest : List Char} (leading : first ≠ '0')
    (digit : ∀ c ∈ first :: rest, c.isDigit = true) (point : Int) :
    ∃ whole fraction, IsWhole whole ∧ IsFraction fraction ∧
      (FloatLayout.positional (first :: rest) point).toList = whole ++ fraction := by
  rw [FloatLayout.positional]
  split_ifs with small short
  · -- all digits behind the point
    refine ⟨['0'], '.' :: (List.replicate (-point).toNat '0' ++ first :: rest), .zero,
      .some ⟨by simp, fun c member => ?_⟩, by simp [String.toList_append]⟩
    exact (List.mem_append.mp member).elim Decimal.isDigit_of_mem_zeros (digit c)
  · -- all digits before the point
    refine ⟨first :: (rest ++ List.replicate (point.toNat - (first :: rest).length) '0'),
      ['.', '0'], .positive leading fun c member => ?_, .some ⟨by decide, by simp⟩,
      by simp [String.toList_append]⟩
    rw [← List.cons_append] at member
    exact (List.mem_append.mp member).elim (digit c) Decimal.isDigit_of_mem_zeros
  · -- the point stands among the digits
    obtain ⟨front, count⟩ := Nat.exists_eq_succ_of_ne_zero (by omega : point.toNat ≠ 0)
    refine ⟨first :: rest.take front, '.' :: rest.drop front, .positive leading fun c member => ?_,
      .some ⟨?_, fun c member => ?_⟩, by simp [String.toList_append, count]⟩
    · exact digit c (List.mem_of_mem_take (by rwa [← List.take_succ_cons] at member))
    · simp only [List.length_cons] at short
      simp only [ne_eq, List.drop_eq_nil_iff]
      omega
    · exact digit c (List.mem_cons_of_mem first (List.mem_of_mem_drop member))

/-- A decimal of a positive coefficient is written as a whole part, places and an exponent. -/
theorem exists_decimalText (layout : FloatLayout) {decimal : Scientific}
    (positive : 0 < decimal.digits) :
    ∃ whole fraction exponent, IsWhole whole ∧ IsFraction fraction ∧ IsExponent exponent ∧
      (layout.decimalText decimal).toList = whole ++ fraction ++ exponent := by
  obtain ⟨first, rest, shown, leading⟩ := exists_digits_eq positive
  have digit : ∀ c ∈ first :: rest, c.isDigit = true := fun c member =>
    Decimal.isDigit_of_mem_digits (shown ▸ member)
  simp only [FloatLayout.decimalText, shown]
  split
  · obtain ⟨whole, fraction, wholes, places, written⟩ := exists_positional leading digit
      (decimal.exponent + (first :: rest).length - 1 + 1)
    exact ⟨whole, fraction, [], wholes, places, .none, by rw [written, List.append_nil]⟩
  · generalize decimal.exponent + ((first :: rest).length : Int) - 1 = power
    have powered : IsExponent ('e' :: (layout.exponentText power).toList) := by
      rw [FloatLayout.toList_exponentText]
      refine @IsExponent.some 'e' [if power < 0 then '-' else '+'] _ (by decide) ?_
        ⟨?_, fun c member => ?_⟩
      · split <;> decide
      · exact List.append_ne_nil_of_right_ne_nil _ (FloatLayout.digits_ne_nil _)
      · exact (List.mem_append.mp member).elim Decimal.isDigit_of_mem_zeros
          Decimal.isDigit_of_mem_digits
    have whole : IsWhole [first] := .positive leading fun c member =>
      digit c (List.mem_singleton.mp member ▸ List.mem_cons_self)
    cases rest with
    | nil => exact ⟨[first], [], _, whole, .none, powered, by simp [String.toList_append]⟩
    | cons second rest =>
      refine ⟨[first], '.' :: second :: rest, _, whole, .some ⟨List.cons_ne_nil _ _,
        fun c member => digit c (List.mem_cons_of_mem first member)⟩, powered,
        by simp [String.toList_append]⟩

/-- The shortest decimal of a number other than zero has a positive coefficient. -/
theorem digits_shortest_pos {negative : Bool} {m : Nat} {q : Int} (canonical : IsCanonical m q)
    (positive : 0 < m) :
    0 < (Scientific.shortest (.finite negative m q canonical) negative (ratioOf 2 m q).1
      (ratioOf 2 m q).2).digits := by
  have back : (Scientific.shortest (.finite negative m q canonical) negative (ratioOf 2 m q).1
      (ratioOf 2 m q).2).toBinary64 negative = .finite negative m q canonical :=
    Scientific.toBinary64_shortest (ratioOf_fst_pos Nat.two_pos positive q)
      (ratioOf_pos Nat.two_pos m q) positive (div_ratioOf_two m q)
  refine Nat.pos_of_ne_zero fun none => ?_
  -- a decimal without digits reads back as zero
  have zero (exponent : Int) : Binary64.ofScientific negative 10 0 exponent =
      .finite negative 0 (-1074) (by decide) := by
    have same : ((0 : Nat) : ℚ) * (10 : Nat) ^ exponent = (0 : Nat) * (10 : Nat) ^ (0 : Int) := by
      simp
    rw [Binary64.ofScientific_congr (by norm_num) (by norm_num) same]
    cases negative <;> rfl
  rw [Scientific.toBinary64, none, zero] at back
  injection back with _ same
  exact absurd same (Nat.ne_of_lt positive)

/-- A finite number is written as a numeral. -/
theorem isNumeral_float {value : Binary64} (finite : value.isFinite = true) :
    IsNumeral (value.textIn JsonForm.floatLayout).toList := by
  cases value with
  | nan => contradiction
  | infinite negative => contradiction
  | finite negative m q canonical =>
    rw [Binary64.textIn]
    split
    · rw [String.toList_append]
      have places : IsFraction ['.', '0'] := .some ⟨by decide, by simp⟩
      have zero := IsNumeral.mk (sign_mem negative) .zero places .none
      rwa [List.append_nil, List.append_assoc] at zero
    case isFalse nonzero =>
      obtain ⟨whole, fraction, exponent, wholes, places, power, written⟩ :=
        exists_decimalText JsonForm.floatLayout
          (digits_shortest_pos canonical (Nat.pos_of_ne_zero nonzero))
      rw [String.toList_append, written]
      have numeral := IsNumeral.mk (sign_mem negative) wholes places power
      rwa [List.append_assoc, List.append_assoc, ← List.append_assoc whole] at numeral

end Floats

end Json

end OrcRows
