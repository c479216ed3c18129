import OrcRows.Number.FloatText
import OrcRows.Proofs.Number.DecimalReading
import OrcRows.Proofs.Number.Shortest
import Mathlib.Data.List.TakeWhile
import Mathlib.Data.Nat.Digits.Defs

/-!
# The significant digits of a text

The digits that a numeral shows before its exponent are those of its decimal, filled up with zeros
on either side. Zeros at either end are not significant, so a text has no more significant digits
than its decimal has digits.
-/

namespace OrcRows

open Rounding

/-- The digits that a numeral shows before its exponent. -/
def shownDigits (text : String) : List Char :=
  (text.toList.takeWhile (· ≠ 'e')).filter Char.isDigit

/-- Digits without the zeros at either end. -/
def stripZeros (digits : List Char) : List Char :=
  (digits.dropWhile (· = '0')).reverse.dropWhile (· = '0')

/-- The number of significant digits of a numeral. -/
def significantDigits (text : String) : Nat := (stripZeros (shownDigits text)).length

/-- Zeros at either end of some digits are not significant. -/
theorem length_stripZeros_le (before after : Nat) (shown : List Char) :
    (stripZeros (List.replicate before '0' ++ shown ++ List.replicate after '0')).length ≤
      shown.length := by
  have zeros (count : Nat) : ∀ c ∈ List.replicate count '0', decide (c = '0') = true := by
    intro c hc
    exact decide_eq_true (List.eq_of_mem_replicate hc)
  rw [stripZeros, List.append_assoc, List.dropWhile_append_of_pos (zeros before),
    List.dropWhile_append]
  split
  · rw [List.dropWhile_eq_nil_iff.mpr (zeros after)]
    simp
  · rw [List.reverse_append, List.reverse_replicate, List.dropWhile_append_of_pos (zeros after)]
    calc _ ≤ (shown.dropWhile (· = '0')).reverse.length := (List.dropWhile_sublist _).length_le
      _ ≤ shown.length := by
          rw [List.length_reverse]
          exact (List.dropWhile_sublist _).length_le

/-- A numeral shows the digits on either side of its point, and none of those of its exponent. -/
theorem shownDigits_of_toList {text : String} {left point right rest : List Char}
    (split : text.toList = left ++ (point ++ (right ++ rest)))
    (digitLeft : ∀ c ∈ left, c.isDigit = true) (digitRight : ∀ c ∈ right, c.isDigit = true)
    (mark : ∀ c ∈ point, c = '.') (stop : rest = [] ∨ ∃ exponent, rest = 'e' :: exponent) :
    shownDigits text = left ++ right := by
  have digits : ∀ c : Char, c.isDigit = true → decide (c ≠ 'e') = true := by
    rintro c digit
    apply decide_eq_true
    rintro rfl
    contradiction
  have points : ∀ c ∈ point, decide (c ≠ 'e') = true := by
    intro c hc
    rw [mark c hc]
    rfl
  have ends : rest.takeWhile (fun c => decide (c ≠ 'e')) = [] := by
    rcases stop with rfl | ⟨exponent, rfl⟩
    · rfl
    · exact List.takeWhile_cons_of_neg (by decide)
  have none : point.filter Char.isDigit = [] := by
    rw [List.filter_eq_nil_iff]
    intro c hc
    rw [mark c hc]
    decide
  rw [shownDigits, split, List.takeWhile_append_of_pos fun c hc => digits c (digitLeft c hc),
    List.takeWhile_append_of_pos points,
    List.takeWhile_append_of_pos fun c hc => digits c (digitRight c hc), ends, List.append_nil,
    List.filter_append, List.filter_append, none, List.nil_append,
    List.filter_eq_self.mpr digitLeft, List.filter_eq_self.mpr digitRight]

namespace FloatLayout

/-- A sign is not a digit. -/
theorem shownDigits_sign (negative : Bool) (text : String) :
    shownDigits (sign negative ++ text) = shownDigits text := by
  cases negative with
  | true =>
    have mark : (sign true ++ text).toList = '-' :: text.toList := by
      simp [sign, String.toList_append]
    rw [shownDigits, mark, List.takeWhile_cons_of_pos (by decide),
      List.filter_cons_of_neg (by decide)]
    rfl
  | false =>
    have same : sign false ++ text = text := by
      simp [sign]
    rw [same]

variable {shown : List Char}

/-- A numeral in positional notation shows its digits between zeros. -/
theorem shownDigits_positional (digit : ∀ c ∈ shown, c.isDigit = true) (point : Int) :
    ∃ before after, shownDigits (positional shown point) =
      List.replicate before '0' ++ shown ++ List.replicate after '0' := by
  rw [positional]
  split
  case isTrue behind =>
    refine ⟨(-point).toNat + 1, 0, ?_⟩
    have list : ("0." ++ String.ofList (List.replicate (-point).toNat '0' ++ shown)).toList =
        ['0'] ++ (['.'] ++ (List.replicate (-point).toNat '0' ++ shown ++ [])) := by
      simp [String.toList_append]
    rw [shownDigits_of_toList list (by simp) (fun c hc => (List.mem_append.mp hc).elim
      Decimal.isDigit_of_mem_zeros (digit c)) (by simp) (.inl rfl)]
    simp [List.replicate_succ]
  case isFalse large =>
    split
    case isTrue before =>
      refine ⟨0, point.toNat - shown.length + 1, ?_⟩
      have list : (String.ofList (shown ++ List.replicate (point.toNat - shown.length) '0') ++
          ".0").toList =
          shown ++ List.replicate (point.toNat - shown.length) '0' ++ (['.'] ++ (['0'] ++ [])) := by
        simp [String.toList_append]
      rw [shownDigits_of_toList list (fun c hc => (List.mem_append.mp hc).elim (digit c)
        Decimal.isDigit_of_mem_zeros) (by simp) (by simp) (.inl rfl)]
      simp [List.replicate_succ']
    case isFalse among =>
      refine ⟨0, 0, ?_⟩
      have list : (String.ofList (shown.take point.toNat) ++ "." ++
          String.ofList (shown.drop point.toNat)).toList =
          shown.take point.toNat ++ (['.'] ++ (shown.drop point.toNat ++ [])) := by
        simp [String.toList_append]
      rw [shownDigits_of_toList list (fun c hc => digit c (List.mem_of_mem_take hc))
        (fun c hc => digit c (List.mem_of_mem_drop hc)) (by simp) (.inl rfl)]
      simp

/-- The text of a decimal shows its digits between zeros. -/
theorem shownDigits_decimalText (layout : FloatLayout) (decimal : Scientific) :
    ∃ before after, shownDigits (layout.decimalText decimal) =
      List.replicate before '0' ++ digits decimal.digits ++ List.replicate after '0' := by
  have digit : ∀ c ∈ digits decimal.digits, c.isDigit = true :=
    fun c hc => Decimal.isDigit_of_mem_digits hc
  rw [decimalText]
  split
  case isTrue moderate => exact shownDigits_positional digit _
  case isFalse =>
    refine ⟨0, 0, ?_⟩
    generalize layout.exponentText
      (decimal.exponent + ((digits decimal.digits).length : Int) - 1) = exponent
    have list : (String.ofList ((digits decimal.digits).take 1) ++
        (if (digits decimal.digits).length = 1 then "" else ".") ++
        String.ofList ((digits decimal.digits).drop 1) ++ "e" ++ exponent).toList =
        (digits decimal.digits).take 1 ++
          ((if (digits decimal.digits).length = 1 then [] else ['.']) ++
            ((digits decimal.digits).drop 1 ++ 'e' :: exponent.toList)) := by
      split <;> simp [String.toList_append]
    rw [shownDigits_of_toList list (fun c hc => digit c (List.mem_of_mem_take hc))
      (fun c hc => digit c (List.mem_of_mem_drop hc)) (by split <;> simp) (.inr ⟨_, rfl⟩),
      List.take_append_drop]
    simp

end FloatLayout

namespace Scientific

/-- Removing trailing zeros leaves less than the power of ten that the digits do not exceed. -/
theorem digits_trimZeros_lt {fuel count : Nat} {decimal : Scientific} (some : 1 ≤ fuel)
    (least : 1 ≤ count) (few : decimal.digits ≤ 10 ^ count) :
    (trimZeros fuel decimal).digits < 10 ^ count := by
  obtain ⟨fuel, rfl⟩ := Nat.exists_eq_add_of_le' some
  obtain ⟨count, rfl⟩ := Nat.exists_eq_add_of_le' least
  rw [trimZeros]
  split
  case isTrue zero =>
    have shorter := (trimZeros_bounds fuel ⟨decimal.digits / 10, decimal.exponent + 1⟩).1
    have power : 0 < 10 ^ count := by positivity
    dsimp only at shorter
    rw [pow_succ] at few ⊢
    omega
  case isFalse some =>
    refine lt_of_le_of_ne few fun full => some ?_
    rw [full, pow_succ]
    exact Nat.mul_mod_left _ _

end Scientific

/-- The text of a decimal has no more significant digits than the decimal. -/
theorem significantDigits_decimalText_le (layout : FloatLayout) {decimal : Scientific} {count : Nat}
    (some : 1 ≤ count) (few : decimal.digits < 10 ^ count) :
    significantDigits (layout.decimalText decimal) ≤ count := by
  obtain ⟨before, after, shown⟩ := layout.shownDigits_decimalText decimal
  rw [significantDigits, shown]
  exact (length_stripZeros_le before after _).trans (Nat.toDigits_length 10 _ count some few)

end OrcRows
