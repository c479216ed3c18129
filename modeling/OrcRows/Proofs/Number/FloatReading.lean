import OrcRows.Number.FloatText
import OrcRows.Proofs.Number.DecimalReading
import OrcRows.Proofs.Number.Shortest

/-!
# The text of a floating-point number reads back

Both notations of a decimal, the positional one and the one with an exponent mark, are numerals of
its number. The text of a floating-point number shows the shortest decimal that reads back, so what
is read from the text is the number itself.
-/

namespace OrcRows

open Rounding

namespace FloatLayout

/-- The digits of a natural are not none. -/
theorem digits_ne_nil (n : Nat) : digits n ≠ [] := Nat.toDigits_ne_nil

section Exponent

variable (layout : FloatLayout) (exponent : Int)

/-- The text of an exponent is a sign and digits. -/
theorem toList_exponentText :
    (layout.exponentText exponent).toList = (if exponent < 0 then '-' else '+') ::
      (List.replicate (layout.exponentWidth - (digits exponent.natAbs).length) '0' ++
        digits exponent.natAbs) := by
  simp only [exponentText, String.toList_append, String.toList_ofList]
  split <;> rfl

/-- The text of an exponent is read as the exponent. -/
theorem exponentOf?_exponentText :
    Decimal.exponentOf? ('e' :: (layout.exponentText exponent).toList) = some exponent := by
  have read := Decimal.exponentOf?_signed (decide (exponent < 0))
    (List.append_ne_nil_of_right_ne_nil
      (List.replicate (layout.exponentWidth - (digits exponent.natAbs).length) '0')
      (digits_ne_nil exponent.natAbs)) (by
    intro c hc
    rcases List.mem_append.mp hc with zero | digit
    · exact Decimal.isDigit_of_mem_zeros zero
    · exact Decimal.isDigit_of_mem_digits digit)
  simp only [decide_eq_true_eq, Decimal.digitsValue_zeros, Decimal.digitsValue_digits] at read
  rw [toList_exponentText, read]
  split <;> congr 1 <;> omega

/-- The text of an exponent is plain. -/
theorem plain_exponentText {c : Char} (hc : c ∈ 'e' :: (layout.exponentText exponent).toList) :
    Decimal.IsPlain c := by
  rw [toList_exponentText] at hc
  simp only [List.mem_cons, List.mem_append] at hc
  rcases hc with rfl | rfl | zero | digit
  · exact .inr (by decide)
  · split <;> exact .inr (by decide)
  · exact .inl (Decimal.isDigit_of_mem_zeros zero)
  · exact .inl (Decimal.isDigit_of_mem_digits digit)

end Exponent

section Positional

variable {shown : List Char} {coefficient : Nat} {exponent : Int}

/-- Digits behind the point, after some zeros, are a numeral. -/
theorem isNumeral_behind (zeros : Nat) (digit : ∀ c ∈ shown, c.isDigit = true)
    (read : Decimal.digitsValue shown = coefficient) (place : exponent = -(zeros + shown.length))
    (fits : Decimal.isRepresentable coefficient exponent = true) :
    Decimal.IsNumeral ("0." ++ String.ofList (List.replicate zeros '0' ++ shown)).toList
      (coefficient * 10 ^ exponent) := by
  have shape : ("0." ++ String.ofList (List.replicate zeros '0' ++ shown)).toList =
      ['0'] ++ '.' :: (List.replicate zeros '0' ++ shown ++ []) := by
    simp [String.toList_append]
  have digits : ∀ c ∈ List.replicate zeros '0' ++ shown, c.isDigit = true := by
    intro c hc
    rcases List.mem_append.mp hc with zero | hc
    · exact Decimal.isDigit_of_mem_zeros zero
    · exact digit c hc
  have value : Decimal.digitsValue (['0'] ++ (List.replicate zeros '0' ++ shown)) = coefficient :=
    (Decimal.digitsValue_zeros 1 _).trans ((Decimal.digitsValue_zeros zeros _).trans read)
  have places : 0 - ((List.replicate zeros '0' ++ shown).length : Int) = exponent := by
    rw [List.length_append, List.length_replicate]
    omega
  rw [shape]
  exact Decimal.isNumeral_of_point (by simp) (by simp) digits (by simp) rfl value places fits

/-- Digits before the point, with some zeros after them, are a numeral. -/
theorem isNumeral_before (zeros : Nat) (some : shown ≠ []) (digit : ∀ c ∈ shown, c.isDigit = true)
    (read : Decimal.digitsValue shown = coefficient) (place : exponent = zeros)
    (fits : Decimal.isRepresentable (coefficient * 10 ^ (zeros + 1)) (-1) = true) :
    Decimal.IsNumeral (String.ofList (shown ++ List.replicate zeros '0') ++ ".0").toList
      (coefficient * 10 ^ exponent) := by
  have shape : (String.ofList (shown ++ List.replicate zeros '0') ++ ".0").toList =
      shown ++ List.replicate zeros '0' ++ '.' :: (['0'] ++ []) := by
    simp [String.toList_append]
  have number : (coefficient : ℚ) * 10 ^ exponent =
      (coefficient * 10 ^ (zeros + 1) : Nat) * 10 ^ (-1 : Int) := by
    rw [place, zpow_natCast, zpow_neg_one]
    push_cast
    rw [pow_succ]
    ring
  have digits : ∀ c ∈ shown ++ List.replicate zeros '0', c.isDigit = true := by
    intro c hc
    rcases List.mem_append.mp hc with hc | zero
    · exact digit c hc
    · exact Decimal.isDigit_of_mem_zeros zero
  have value : Decimal.digitsValue (shown ++ List.replicate zeros '0' ++ ['0']) =
      coefficient * 10 ^ (zeros + 1) := by
    rw [List.append_assoc, ← List.replicate_succ', Decimal.digitsValue_append_zeros, read]
  rw [shape, number]
  exact Decimal.isNumeral_of_point (List.append_ne_nil_of_left_ne_nil some _) digits (by simp)
    (by simp) rfl value (by simp) fits

/-- Digits with the point among them are a numeral. -/
theorem isNumeral_among {point : Nat} (positive : 0 < point) (some : shown ≠ [])
    (digit : ∀ c ∈ shown, c.isDigit = true) (read : Decimal.digitsValue shown = coefficient)
    (place : exponent = -(shown.length - point : Nat))
    (fits : Decimal.isRepresentable coefficient exponent = true) :
    Decimal.IsNumeral (String.ofList (shown.take point) ++ "." ++
      String.ofList (shown.drop point)).toList (coefficient * 10 ^ exponent) := by
  have shape :
      (String.ofList (shown.take point) ++ "." ++ String.ofList (shown.drop point)).toList =
      shown.take point ++ '.' :: (shown.drop point ++ []) := by
    simp [String.toList_append]
  have value : Decimal.digitsValue (shown.take point ++ shown.drop point) = coefficient := by
    rw [List.take_append_drop, read]
  have places : 0 - ((shown.drop point).length : Int) = exponent := by
    rw [List.length_drop]
    omega
  rw [shape]
  exact Decimal.isNumeral_of_point (by simp [some, positive.ne'])
    (fun c hc => digit c (List.mem_of_mem_take hc)) (fun c hc => digit c (List.mem_of_mem_drop hc))
    (by simp) rfl value places fits

end Positional

section Notation

variable {decimal : Scientific}

/-- A decimal of moderate size in positional notation is a numeral of its number. -/
theorem isNumeral_positional (few : decimal.digits < 10 ^ 18) (least : -2000 ≤ decimal.exponent)
    (most : decimal.exponent + (digits decimal.digits).length ≤ 16) :
    Decimal.IsNumeral (positional (digits decimal.digits)
      (decimal.exponent + (digits decimal.digits).length)).toList decimal.value := by
  have digit : ∀ c ∈ digits decimal.digits, c.isDigit = true :=
    fun c hc => Decimal.isDigit_of_mem_digits hc
  have read := Decimal.digitsValue_digits decimal.digits
  have fits : Decimal.isRepresentable decimal.digits decimal.exponent = true :=
    Decimal.isRepresentable_of_lt (by norm_num) few (by rw [Decimal.minExponent]; omega)
      (by rw [Decimal.maxLeading]; omega)
  rw [positional]
  split
  case isTrue behind => exact isNumeral_behind _ digit read (by omega) fits
  case isFalse large =>
    split
    case isTrue before =>
      obtain ⟨zeros, count⟩ := Int.eq_ofNat_of_zero_le (show 0 ≤ decimal.exponent by omega)
      have small : decimal.digits * 10 ^ (zeros + 1) < 10 ^ (18 + (zeros + 1)) := by
        rw [pow_add 10 18]
        exact Nat.mul_lt_mul_of_pos_right few (by positivity)
      have fill : (decimal.exponent + (digits decimal.digits).length).toNat -
          (digits decimal.digits).length = zeros := by omega
      rw [fill]
      exact isNumeral_before zeros (digits_ne_nil _) digit read count
        (Decimal.isRepresentable_of_lt (by omega) small (by decide)
          (by rw [Decimal.maxLeading]; omega))
    case isFalse among =>
      exact isNumeral_among (by omega) (digits_ne_nil _) digit read (by omega) fits

/-- A decimal of moderate size with an exponent mark is a numeral of its number. -/
theorem isNumeral_scientific (layout : FloatLayout) (few : decimal.digits < 10 ^ 18)
    (least : -2000 ≤ decimal.exponent) (most : decimal.exponent ≤ 2000) :
    Decimal.IsNumeral (String.ofList ((digits decimal.digits).take 1) ++
      (if (digits decimal.digits).length = 1 then "" else ".") ++
      String.ofList ((digits decimal.digits).drop 1) ++ "e" ++
      layout.exponentText (decimal.exponent + (digits decimal.digits).length - 1)).toList
      decimal.value := by
  have digit : ∀ c ∈ digits decimal.digits, c.isDigit = true :=
    fun c hc => Decimal.isDigit_of_mem_digits hc
  have read := Decimal.digitsValue_digits decimal.digits
  have fits : Decimal.isRepresentable decimal.digits decimal.exponent = true :=
    Decimal.isRepresentable_of_lt (by norm_num) few (by rw [Decimal.minExponent]; omega)
      (by rw [Decimal.maxLeading]; omega)
  cases shown : digits decimal.digits with
  | nil => exact absurd shown (digits_ne_nil _)
  | cons first rest =>
    rw [shown] at digit read
    have plain (leading : Int) : ∀ c ∈ 'e' :: (layout.exponentText leading).toList,
        Decimal.IsPlain c := fun c hc => plain_exponentText layout leading hc
    cases rest with
    | nil =>
      have leading : decimal.exponent + (([first] : List Char).length : Int) - 1 =
          decimal.exponent := by simp
      have shape : (String.ofList ([first].take 1) ++ (if [first].length = 1 then "" else ".") ++
          String.ofList ([first].drop 1) ++ "e" ++ layout.exponentText decimal.exponent).toList =
          [first] ++ 'e' :: (layout.exponentText decimal.exponent).toList := by
        simp [String.toList_append]
      rw [leading, shape]
      exact Decimal.isNumeral_of_whole (by simp) digit (plain _)
        (exponentOf?_exponentText layout _) read fits
    | cons second rest =>
      generalize hleading :
        decimal.exponent + ((first :: second :: rest).length : Int) - 1 = leading
      have shape : (String.ofList ((first :: second :: rest).take 1) ++
          (if (first :: second :: rest).length = 1 then "" else ".") ++
          String.ofList ((first :: second :: rest).drop 1) ++ "e" ++
          layout.exponentText leading).toList =
          [first] ++ '.' :: (second :: rest ++ 'e' :: (layout.exponentText leading).toList) := by
        simp [String.toList_append]
      have places : leading - ((second :: rest).length : Int) = decimal.exponent := by
        rw [← hleading, List.length_cons (a := first)]
        omega
      rw [shape]
      exact Decimal.isNumeral_of_point (by simp) (by simp [digit first])
        (fun c hc => digit c (List.mem_cons_of_mem _ hc)) (plain _)
        (exponentOf?_exponentText layout _) read places fits

/-- A decimal of moderate size in the standard layout is a numeral of its number. -/
theorem isNumeral_decimalText (few : decimal.digits < 10 ^ 18) (least : -2000 ≤ decimal.exponent)
    (most : decimal.exponent ≤ 2000) :
    Decimal.IsNumeral (standard.decimalText decimal).toList decimal.value := by
  simp only [decimalText]
  split
  case isTrue moderate =>
    have first : standard.firstScientific = 16 := rfl
    rw [sub_add_cancel]
    exact isNumeral_positional few least (by omega)
  case isFalse => exact isNumeral_scientific standard few least most

end Notation

/-- The text of zero is a numeral of zero. -/
theorem isNumeral_zero : Decimal.IsNumeral "0.0".toList 0 := by
  have digit : ∀ c ∈ ['0'], c.isDigit = true := by simp
  have power : Decimal.exponentOf? [] = some 0 := rfl
  have read : Decimal.digitsValue (['0'] ++ ['0']) = 0 := rfl
  have numeral := Decimal.isNumeral_of_point (List.cons_ne_nil '0' []) digit digit (by simp) power
    read rfl (Decimal.isRepresentable_of_lt Nat.one_pos (by norm_num) (by decide) (by decide))
  rwa [Nat.cast_zero, zero_mul] at numeral

end FloatLayout

namespace Binary64

/-- The number nearest to the decimal number that a text shows. -/
def ofText? (text : String) : Option Binary64 :=
  match Decimal.ofText? text with
  | some (.finite negative coefficient exponent) =>
    some (ofScientific negative 10 coefficient exponent)
  | _ => none

/-- A text of a sign and a numeral is read as any number that the numeral's decimals round to. -/
theorem ofText?_sign {text : String} {number : ℚ} (numeral : Decimal.IsNumeral text.toList number)
    (negative : Bool) {significand : Nat} {exponent : Int}
    (same : number = significand * 10 ^ exponent) :
    ofText? (FloatLayout.sign negative ++ text) =
      some (ofScientific negative 10 significand exponent) := by
  obtain ⟨coefficient, power, value, read⟩ := numeral.ofText?_signed negative
  rw [ofText?, FloatLayout.sign, read]
  exact congrArg some
    (ofScientific_congr (by norm_num) (by norm_num) (by exact_mod_cast value.trans same))

/-- The text of a finite number is a sign and a numeral of a decimal that rounds to the number. -/
theorem exists_numeral_text {negative : Bool} {m : Nat} {q : Int} {canonical : IsCanonical m q} :
    ∃ (shown : String) (decimal : Scientific),
      (Binary64.finite negative m q canonical).text = FloatLayout.sign negative ++ shown ∧
      Decimal.IsNumeral shown.toList decimal.value ∧
      decimal.toBinary64 negative = .finite negative m q canonical := by
  simp only [text, textIn]
  split
  case isTrue zero =>
    obtain rfl := zero
    obtain rfl : q = -1074 := canonical.2.2.2.resolve_left (by norm_num)
    refine ⟨"0.0", ⟨0, 0⟩, rfl, ?_, by cases negative <;> rfl⟩
    rw [Scientific.value, Nat.cast_zero, zero_mul]
    exact FloatLayout.isNumeral_zero
  case isFalse positive =>
    have hm : 0 < m := Nat.pos_of_ne_zero positive
    have hd := ratioOf_pos Nat.two_pos m q
    have same := div_ratioOf_two m q
    have hn := ratioOf_fst_pos Nat.two_pos hm q
    have decade := Scientific.decade_bounds hn hd hm canonical same
    obtain ⟨few, least, most⟩ := Scientific.shortest_bounds
      (.finite negative m q canonical) negative hn hd
    exact ⟨_, _, rfl, FloatLayout.isNumeral_decimalText (few.trans_lt (by norm_num))
      (by omega) (by omega), Scientific.toBinary64_shortest hn hd hm same⟩

/-- The text of a finite number is read as the number itself. -/
theorem ofText?_text {x : Binary64} (finite : x.isFinite = true) : ofText? x.text = some x := by
  cases x with
  | nan => contradiction
  | infinite negative => contradiction
  | finite negative m q canonical =>
    obtain ⟨shown, decimal, written, numeral, rounded⟩ := exists_numeral_text
    rw [written, ofText?_sign numeral negative rfl]
    exact congrArg some rounded

end Binary64

end OrcRows
