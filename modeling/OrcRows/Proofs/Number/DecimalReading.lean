import OrcRows.Cell.Leaf
import OrcRows.Proofs.Number.Rescale

/-!
# Reading decimals from plain text

A plain text has digits, signs, points and exponent marks only, and is read as it stands. A numeral
of digits, with a point among them or without one, and with an exponent or without one, is read as
the decimal of its digits and its exponent. The digits of a natural are read as that natural.
-/

namespace OrcRows

open Rounding

namespace Decimal

section Plain

/-- The characters of numerals. -/
def IsPlain (c : Char) : Prop := c.isDigit ∨ c ∈ ['.', '-', '+', 'e']

instance (c : Char) : Decidable (IsPlain c) := inferInstanceAs (Decidable (_ ∨ _))

/-- Plain characters belong to the ASCII characters. -/
theorem IsPlain.toNat_lt {c : Char} (plain : IsPlain c) : c.toNat < 128 := by
  rcases plain with digit | mark
  · exact (Char.isDigit_iff_toNat.mp digit).2.trans_lt (by decide)
  · simp only [List.mem_cons, List.not_mem_nil, or_false] at mark
    rcases mark with rfl | rfl | rfl | rfl <;> decide

/-- Plain characters are no space and no underscore, and are read as they are. -/
theorem IsPlain.stands {c : Char} (plain : IsPlain c) :
    CharClass.isSpace c = false ∧ c ≠ '_' ∧
      (if CharClass.isDigit c then Char.ofNat ('0'.toNat + CharClass.digitValue c) else c) = c := by
  have all : ∀ n < 128, IsPlain (Char.ofNat n) →
      CharClass.isSpace (Char.ofNat n) = false ∧ Char.ofNat n ≠ '_' ∧
        (if CharClass.isDigit (Char.ofNat n) then
          Char.ofNat ('0'.toNat + CharClass.digitValue (Char.ofNat n)) else Char.ofNat n) =
          Char.ofNat n := by
    decide +kernel
  have here := all c.toNat plain.toNat_lt
  rw [Char.ofNat_toNat] at here
  exact here plain

/-- Nothing is trimmed off a text without space. -/
theorem trim_eq_self {space : Char → Bool} {text : List Char} (h : ∀ c ∈ text, space c = false) :
    CharClass.trim space text = text := by
  have kept : ∀ shown : List Char, (∀ c ∈ shown, space c = false) →
      shown.dropWhile space = shown := by
    intro shown none
    cases shown with
    | nil => rfl
    | cons first rest => rw [List.dropWhile_cons_of_neg]; simp [none first]
  rw [CharClass.trim, kept text h, kept text.reverse fun c hc => h c (List.mem_reverse.mp hc),
    List.reverse_reverse]

/-- A plain text is read as it stands. -/
theorem ofText?_of_plain {text : String} (plain : ∀ c ∈ text.toList, IsPlain c) :
    ofText? text = ofChars? text.toList := by
  have whole : text.toList.filter (fun c => decide (c ≠ '_')) = text.toList :=
    List.filter_eq_self.mpr fun c hc => by simpa using (plain c hc).stands.2.1
  rw [ofText?, trim_eq_self fun c hc => (plain c hc).stands.1, whole]
  congr 1
  conv_rhs => rw [← List.map_id text.toList]
  exact List.map_congr_left fun c hc => (plain c hc).stands.2.2

end Plain

section Digits

/-- The value of digits is the number that they are the decimal digits of. -/
theorem digitsValue_eq (shown : List Char) : digitsValue shown = Nat.ofDigitChars 10 shown 0 := rfl

/-- The digits of a natural have its value. -/
theorem digitsValue_digits (n : Nat) : digitsValue (digits n) = n := Nat.ofDigitChars_ten_toDigits

/-- Zeros in front of digits do not count. -/
theorem digitsValue_zeros (count : Nat) (shown : List Char) :
    digitsValue (List.replicate count '0' ++ shown) = digitsValue shown := by
  rw [digitsValue_eq, Nat.ofDigitChars_append, Nat.ofDigitChars_replicate_zero, Nat.mul_zero]
  rfl

/-- Each zero behind digits makes their value ten times as great. -/
theorem digitsValue_append_zeros (shown : List Char) (count : Nat) :
    digitsValue (shown ++ List.replicate count '0') = digitsValue shown * 10 ^ count := by
  rw [digitsValue_eq, Nat.ofDigitChars_append, Nat.ofDigitChars_replicate_zero, Nat.mul_comm]
  rfl

/-- The digits of a natural are digits. -/
theorem isDigit_of_mem_digits {n : Nat} {c : Char} (h : c ∈ digits n) : c.isDigit = true :=
  Nat.isDigit_of_mem_toDigits (by norm_num) (by norm_num) h

/-- Zeros are digits. -/
theorem isDigit_of_mem_zeros {count : Nat} {c : Char} (h : c ∈ List.replicate count '0') :
    c.isDigit = true := by
  rw [List.eq_of_mem_replicate h]
  rfl

end Digits

section Numerals

variable {negative : Bool} {whole fraction tail : List Char} {power exponent : Int}
  {coefficient : Nat}

/-- An exponent mark with a sign and digits is read as the signed value of the digits. -/
theorem exponentOf?_signed (below : Bool) {shown : List Char} (nonempty : shown ≠ [])
    (digits : ∀ c ∈ shown, c.isDigit = true) :
    exponentOf? ('e' :: (if below then '-' else '+') :: shown) =
      some (if below then -(digitsValue shown : Int) else digitsValue shown) := by
  have all : shown.all Char.isDigit = true := List.all_eq_true.mpr digits
  cases below <;> simp [exponentOf?, splitSign, nonempty, all]

/-- What is read as an exponent and is not empty begins with an exponent mark. -/
theorem exponentOf?_head {first : Char} {rest : List Char}
    (h : exponentOf? (first :: rest) = some power) : first = 'e' ∨ first = 'E' := by
  by_contra other
  rw [exponentOf?, if_neg other] at h
  contradiction

/-- Digits before an exponent or the end are taken whole. -/
theorem takeWhile_digits (digits : ∀ c ∈ whole, c.isDigit = true)
    (h : exponentOf? tail = some power) :
    (whole ++ tail).takeWhile Char.isDigit = whole ∧
      (whole ++ tail).dropWhile Char.isDigit = tail := by
  rw [List.takeWhile_append_of_pos digits, List.dropWhile_append_of_pos digits]
  cases tail with
  | nil => simp
  | cons first rest =>
    have mark : first.isDigit = false := by
      rcases exponentOf?_head h with rfl | rfl <;> rfl
    rw [List.takeWhile_cons_of_neg (by simp [mark]), List.dropWhile_cons_of_neg (by simp [mark]),
      List.append_nil]
    exact ⟨rfl, rfl⟩

/-- Digits with a point among them are read as their value with the places behind the point taken
off the exponent. -/
theorem numberOf?_of_point (nonempty : whole ≠ []) (wholes : ∀ c ∈ whole, c.isDigit = true)
    (fractions : ∀ c ∈ fraction, c.isDigit = true) (h : exponentOf? tail = some power)
    (fits : isRepresentable (digitsValue (whole ++ fraction)) (power - fraction.length) = true) :
    numberOf? negative (whole ++ '.' :: (fraction ++ tail)) =
      some (.finite negative (digitsValue (whole ++ fraction)) (power - fraction.length)) := by
  have before : (whole ++ '.' :: (fraction ++ tail)).takeWhile Char.isDigit = whole := by
    rw [List.takeWhile_append_of_pos wholes, List.takeWhile_cons_of_neg (by decide),
      List.append_nil]
  have after : (whole ++ '.' :: (fraction ++ tail)).dropWhile Char.isDigit =
      '.' :: (fraction ++ tail) := by
    rw [List.dropWhile_append_of_pos wholes, List.dropWhile_cons_of_neg (by decide)]
  obtain ⟨places, rest⟩ := takeWhile_digits fractions h
  simp only [numberOf?, before, after, places, rest, h]
  rw [if_neg fun none => nonempty none.1]
  exact if_pos fits

/-- Digits without a point are read as their value. -/
theorem numberOf?_of_whole (nonempty : whole ≠ []) (wholes : ∀ c ∈ whole, c.isDigit = true)
    (h : exponentOf? tail = some power)
    (fits : isRepresentable (digitsValue whole) power = true) :
    numberOf? negative (whole ++ tail) =
      some (.finite negative (digitsValue whole) power) := by
  obtain ⟨before, after⟩ := takeWhile_digits wholes h
  simp only [numberOf?, before, after]
  rw [if_neg fun none => nonempty none.1]
  cases tail with
  | nil =>
    injection h with zero
    subst zero
    simpa [exponentOf?] using fits
  | cons first rest =>
    obtain rfl | rfl := exponentOf?_head h <;> simpa [h] using fits

/-- A coefficient and an exponent of moderate size are those of a decimal. -/
theorem isRepresentable_of_lt {bound : Nat} (hb : 0 < bound)
    (few : coefficient < 10 ^ bound) (least : minExponent ≤ exponent)
    (most : exponent + bound - 1 ≤ maxLeading) : isRepresentable coefficient exponent = true := by
  have count := digitCount_le hb few
  rw [isRepresentable, decide_eq_true_iff]
  exact ⟨least, by omega⟩

/-- A numeral of a number: plain characters, a digit first, that are read as the number. -/
structure IsNumeral (shown : List Char) (number : ℚ) : Prop where
  /-- All characters are plain. -/
  plain : ∀ c ∈ shown, IsPlain c
  /-- The first character is a digit. -/
  leading : ∃ first rest, shown = first :: rest ∧ first.isDigit = true
  /-- The characters are read as the number, under either sign. -/
  reads : ∃ (coefficient : Nat) (exponent : Int), (coefficient : ℚ) * 10 ^ exponent = number ∧
    ∀ negative, numberOf? negative shown = some (.finite negative coefficient exponent)

/-- Digits that are not none begin with a digit. -/
theorem exists_first (nonempty : whole ≠ []) (wholes : ∀ c ∈ whole, c.isDigit = true)
    (rest : List Char) : ∃ first more, whole ++ rest = first :: more ∧ first.isDigit = true := by
  cases whole with
  | nil => exact absurd rfl nonempty
  | cons first more => exact ⟨first, more ++ rest, rfl, wholes first List.mem_cons_self⟩

/-- Digits with a point among them are a numeral. -/
theorem isNumeral_of_point (nonempty : whole ≠ []) (wholes : ∀ c ∈ whole, c.isDigit = true)
    (fractions : ∀ c ∈ fraction, c.isDigit = true) (plain : ∀ c ∈ tail, IsPlain c)
    (h : exponentOf? tail = some power)
    (read : digitsValue (whole ++ fraction) = coefficient)
    (places : power - fraction.length = exponent)
    (fits : isRepresentable coefficient exponent = true) :
    IsNumeral (whole ++ '.' :: (fraction ++ tail)) (coefficient * 10 ^ exponent) := by
  subst read places
  refine ⟨?_, exists_first nonempty wholes _, _, _, rfl, fun _ =>
    numberOf?_of_point nonempty wholes fractions h fits⟩
  intro c hc
  simp only [List.mem_append, List.mem_cons] at hc
  rcases hc with hc | rfl | hc | hc
  · exact .inl (wholes c hc)
  · exact .inr (by decide)
  · exact .inl (fractions c hc)
  · exact plain c hc

/-- Digits without a point are a numeral. -/
theorem isNumeral_of_whole (nonempty : whole ≠ []) (wholes : ∀ c ∈ whole, c.isDigit = true)
    (plain : ∀ c ∈ tail, IsPlain c) (h : exponentOf? tail = some exponent)
    (read : digitsValue whole = coefficient)
    (fits : isRepresentable coefficient exponent = true) :
    IsNumeral (whole ++ tail) (coefficient * 10 ^ exponent) := by
  subst read
  refine ⟨?_, exists_first nonempty wholes _, _, _, rfl, fun _ => numberOf?_of_whole nonempty wholes h fits⟩
  intro c hc
  rcases List.mem_append.mp hc with hc | hc
  · exact .inl (wholes c hc)
  · exact plain c hc

/-- Nothing is split off a text that begins with a digit. -/
theorem splitSign_of_isDigit {first : Char} (digit : first.isDigit = true) (rest : List Char) :
    splitSign (first :: rest) = (false, first :: rest) := by
  rw [splitSign.eq_def]
  split
  case h_1 same =>
    injection same with same
    exact absurd (same ▸ digit) (by decide)
  case h_2 same =>
    injection same with same
    exact absurd (same ▸ digit) (by decide)
  case h_3 => rfl

/-- A text of a sign and a numeral is read as the number with that sign. -/
theorem IsNumeral.ofText?_signed {text : String} {number : ℚ}
    (numeral : IsNumeral text.toList number) (negative : Bool) :
    ∃ (coefficient : Nat) (exponent : Int), (coefficient : ℚ) * 10 ^ exponent = number ∧
      ofText? ((if negative then "-" else "") ++ text) =
        some (.finite negative coefficient exponent) := by
  obtain ⟨plain, ⟨first, rest, shown, digit⟩, coefficient, exponent, value, reads⟩ := numeral
  refine ⟨coefficient, exponent, value, ?_⟩
  cases negative with
  | true =>
    have signed : ∀ c ∈ ("-" ++ text).toList, IsPlain c := by
      intro c hc
      rw [String.toList_append] at hc
      rcases List.mem_append.mp hc with mark | hc
      · obtain rfl : c = '-' := List.mem_singleton.mp mark
        exact .inr (by decide)
      · exact plain c hc
    change ofText? ("-" ++ text) = _
    rw [ofText?_of_plain signed, String.toList_append]
    change (numberOf? true text.toList).or _ = _
    rw [reads]
    rfl
  | false =>
    change ofText? ("" ++ text) = _
    rw [String.empty_append, ofText?_of_plain plain, ofChars?, shown, splitSign_of_isDigit digit,
      ← shown, reads]
    rfl

end Numerals

end Decimal

end OrcRows
