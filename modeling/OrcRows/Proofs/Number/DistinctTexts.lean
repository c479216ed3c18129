import OrcRows.Proofs.Number.SingleText
import Mathlib.Data.List.TakeWhile

/-!
# Texts that tell numbers apart

The text of a decimal shows its sign, its coefficient and its exponent, in plain notation or with an
exponent mark, so the decimal can be read back from it, however many digits there are. The text of a
finite floating-point number is read back by the reader of numbers, and the words for what is not
finite are not read at all.
-/

namespace OrcRows

open Rounding

namespace Decimal

/-- The coefficient and the exponent that a numeral shows: the value of its digits, and the power
behind its exponent mark less the number of its places. -/
def shownParts (shown : List Char) : Nat × Int :=
  let body := shown.takeWhile (· ≠ 'E')
  let places := (body.dropWhile (· ≠ '.')).length - 1
  (digitsValue (body.filter Char.isDigit),
    (exponentOf? (shown.dropWhile (· ≠ 'E'))).getD 0 - places)

/-- The decimal that a text shows. -/
def ofShown (text : String) : Decimal :=
  let signed := splitSign text.toList
  match signed.2 with
  | 'I' :: _ => .infinite signed.1
  | 'N' :: 'a' :: 'N' :: payload => .nan signed.1 false (digitsValue payload)
  | 's' :: 'N' :: 'a' :: 'N' :: payload => .nan signed.1 true (digitsValue payload)
  | shown => .finite signed.1 (shownParts shown).1 (shownParts shown).2

/-- The end of a numeral: an exponent mark that shows a power, or nothing if the power is zero. -/
def IsMark (tail : List Char) (power : Int) : Prop :=
  exponentOf? tail = some power ∧ (tail = [] ∨ ∃ rest, tail = 'E' :: rest)

section Shown

variable {whole fraction body tail : List Char} {power : Int}

/-- An exponent with its sign shows its power. -/
theorem isMark_signedText (power : Int) : IsMark ('E' :: (signedText power).toList) power := by
  refine ⟨?_, .inr ⟨_, rfl⟩⟩
  have read := exponentOf?_signed (decide (power < 0)) (FloatLayout.digits_ne_nil power.natAbs)
    fun c hc => isDigit_of_mem_digits hc
  have shown : (signedText power).toList =
      (if power < 0 then '-' else '+') :: digits power.natAbs := by
    simp only [signedText, String.toList_append, String.toList_ofList]
    split <;> rfl
  simp only [decide_eq_true_eq, digitsValue_digits] at read
  rw [shown]
  refine read.trans (congrArg some ?_)
  split <;> omega

/-- Digits are neither an exponent mark nor a point. -/
theorem ne_of_isDigit {c : Char} (digit : c.isDigit = true) : c ≠ 'E' ∧ c ≠ '.' := by
  constructor <;> rintro rfl <;> contradiction

/-- The exponent mark ends the digits and the point of a numeral. -/
theorem split_mark (plain : ∀ c ∈ body, c ≠ 'E') (mark : IsMark tail power) :
    (body ++ tail).takeWhile (· ≠ 'E') = body ∧ (body ++ tail).dropWhile (· ≠ 'E') = tail := by
  have before : ∀ c ∈ body, decide (c ≠ 'E') = true := fun c hc => decide_eq_true (plain c hc)
  rw [List.takeWhile_append_of_pos before, List.dropWhile_append_of_pos before]
  rcases mark.2 with rfl | ⟨rest, rfl⟩ <;> simp

/-- A numeral without a point shows the value of its digits. -/
theorem shownParts_of_whole (wholes : ∀ c ∈ whole, c.isDigit = true) (mark : IsMark tail power) :
    shownParts (whole ++ tail) = (digitsValue whole, power) := by
  obtain ⟨body, rest⟩ := split_mark (fun c hc => (ne_of_isDigit (wholes c hc)).1) mark
  have point : whole.dropWhile (· ≠ '.') = [] :=
    List.dropWhile_eq_nil_iff.2 fun c hc => decide_eq_true (ne_of_isDigit (wholes c hc)).2
  rw [shownParts, body, rest, point, mark.1, List.filter_eq_self.mpr wholes]
  simp

/-- A numeral with a point shows the value of its digits with the places behind the point taken off
the exponent. -/
theorem shownParts_of_point (wholes : ∀ c ∈ whole, c.isDigit = true)
    (fractions : ∀ c ∈ fraction, c.isDigit = true) (mark : IsMark tail power) :
    shownParts (whole ++ '.' :: (fraction ++ tail)) =
      (digitsValue (whole ++ fraction), power - fraction.length) := by
  have plain : ∀ c ∈ whole ++ '.' :: fraction, c ≠ 'E' := by
    intro c hc
    rcases List.mem_append.mp hc with hc | hc
    · exact (ne_of_isDigit (wholes c hc)).1
    · rcases List.mem_cons.mp hc with rfl | hc
      · decide
      · exact (ne_of_isDigit (fractions c hc)).1
  obtain ⟨body, rest⟩ := split_mark plain mark
  rw [List.append_assoc, List.cons_append] at body rest
  have point : (whole ++ '.' :: fraction).dropWhile (· ≠ '.') = '.' :: fraction := by
    rw [List.dropWhile_append_of_pos fun c hc => decide_eq_true (ne_of_isDigit (wholes c hc)).2]
    simp
  have digits : (whole ++ '.' :: fraction).filter Char.isDigit = whole ++ fraction := by
    rw [List.filter_append, List.filter_eq_self.mpr wholes,
      List.filter_cons_of_neg (by decide), List.filter_eq_self.mpr fractions]
  rw [shownParts, body, rest, point, digits, mark.1]
  simp

/-- Digits behind a point, with zeros between them, show their value. -/
theorem shownParts_behind {shown : List Char} (digit : ∀ c ∈ shown, c.isDigit = true)
    (mark : IsMark tail power) (zeros : Nat) :
    shownParts ('0' :: '.' :: (List.replicate zeros '0' ++ shown ++ tail)) =
      (digitsValue shown, power - (zeros + shown.length)) := by
  have fractions : ∀ c ∈ List.replicate zeros '0' ++ shown, c.isDigit = true := by
    intro c hc
    rcases List.mem_append.mp hc with zero | hc
    · exact isDigit_of_mem_zeros zero
    · exact digit c hc
  have none : ['0'] ++ (List.replicate zeros '0' ++ shown) =
      List.replicate (zeros + 1) '0' ++ shown := rfl
  have read := @shownParts_of_point ['0'] _ _ _ (by simp) fractions mark
  rwa [none, digitsValue_zeros, List.length_append, List.length_replicate, Nat.cast_add] at read

/-- Digits with a point among them show their value. -/
theorem shownParts_among {shown : List Char} (digit : ∀ c ∈ shown, c.isDigit = true)
    (mark : IsMark tail power) {point : Nat} (within : point ≤ shown.length) :
    shownParts (shown.take point ++ '.' :: (shown.drop point ++ tail)) =
      (digitsValue shown, power - (shown.length - point)) := by
  have wholes : ∀ c ∈ shown.take point, c.isDigit = true :=
    fun c hc => digit c (List.mem_of_mem_take hc)
  have fractions : ∀ c ∈ shown.drop point, c.isDigit = true :=
    fun c hc => digit c (List.mem_of_mem_drop hc)
  rw [shownParts_of_point wholes fractions mark, List.take_append_drop, List.length_drop,
    Nat.cast_sub within]

end Shown

/-- The digits of a coefficient show it with its exponent. -/
theorem shownParts_coefficientText (coefficient : Nat) (exponent : Int) :
    shownParts (coefficientText coefficient exponent).toList = (coefficient, exponent) := by
  set shown := digits coefficient with hshown
  have digit : ∀ c ∈ shown, c.isDigit = true := fun c hc => isDigit_of_mem_digits hc
  have positive : 0 < shown.length :=
    List.length_pos_iff.mpr (FloatLayout.digits_ne_nil coefficient)
  have value : digitsValue shown = coefficient := digitsValue_digits coefficient
  set left := exponent + shown.length with hleft
  set point := if exponent ≤ 0 ∧ -6 < left then left else 1 with hpoint
  have placed : (exponent ≤ 0 ∧ point = left) ∨ point = 1 := by
    rw [hpoint]
    split_ifs with plain
    · exact .inl ⟨plain.1, rfl⟩
    · exact .inr rfl
  set mark := if left = point then "" else "E" ++ signedText (left - point) with hmark
  have marked : IsMark mark.toList (left - point) := by
    rw [hmark]
    split
    case isTrue same => exact ⟨congrArg Option.some (by omega), .inl rfl⟩
    case isFalse =>
      rw [String.toList_append]
      exact isMark_signedText _
  rw [coefficientText]
  simp only [← hshown, ← hleft, ← hpoint, ← hmark]
  split_ifs with behind whole
  · have read := shownParts_behind digit marked (-point).toNat
    simp only [String.toList_append, String.toList_ofList]
    refine read.trans (congrArg₂ Prod.mk value ?_)
    omega
  · -- the point would stand behind the last digit and is left out
    have last : point.toNat - shown.length = 0 ∧ left - point = exponent := by omega
    rw [last.1, String.toList_append, String.toList_ofList, List.replicate_zero, List.append_nil,
      shownParts_of_whole digit marked, value, last.2]
  · have read := shownParts_among digit marked (show point.toNat ≤ shown.length by omega)
    simp only [String.toList_append, String.toList_ofList, List.append_assoc]
    refine Eq.trans rfl (read.trans (congrArg₂ Prod.mk value ?_))
    omega

/-- The text of a coefficient begins with a digit. -/
theorem exists_first_coefficientText (coefficient : Nat) (exponent : Int) :
    ∃ first rest, (coefficientText coefficient exponent).toList = first :: rest ∧
      first.isDigit = true := by
  have digit : ∀ c ∈ digits coefficient, c.isDigit = true := fun c hc => isDigit_of_mem_digits hc
  have nonempty := FloatLayout.digits_ne_nil coefficient
  rw [coefficientText]
  generalize (if exponent ≤ 0 ∧ -6 < exponent + (digits coefficient).length then
    exponent + (digits coefficient).length else 1 : Int) = point
  generalize (if exponent + (digits coefficient).length = point then "" else
    "E" ++ signedText (exponent + (digits coefficient).length - point)) = mark
  split_ifs with behind whole
  · rw [String.toList_append, String.toList_append, List.append_assoc]
    exact ⟨'0', _, rfl, rfl⟩
  · rw [String.toList_append, String.toList_ofList, List.append_assoc]
    exact exists_first nonempty digit _
  · simp only [String.toList_append, String.toList_ofList, List.append_assoc]
    refine exists_first ?_ (fun c hc => digit c (List.mem_of_mem_take hc)) _
    rw [ne_eq, List.take_eq_nil_iff]
    exact not_or.mpr ⟨by omega, nonempty⟩

/-- Nothing but a number begins with a digit. -/
theorem ofShown_of_isDigit {negative : Bool} {shown : String} {first : Char} {rest : List Char}
    (same : shown.toList = first :: rest) (digit : first.isDigit = true) :
    ofShown ((if negative then "-" else "") ++ shown) =
      .finite negative (shownParts shown.toList).1 (shownParts shown.toList).2 := by
  have signed : splitSign ((if negative then "-" else "") ++ shown).toList =
      (negative, shown.toList) := by
    rw [String.toList_append, same]
    cases negative with
    | true => rfl
    | false => exact splitSign_of_isDigit digit rest
  rw [ofShown, signed, same]
  split
  case h_1 word =>
    injection word with head
    exact absurd (head ▸ digit) (by decide)
  case h_2 word =>
    injection word with head
    exact absurd (head ▸ digit) (by decide)
  case h_3 word =>
    injection word with head
    exact absurd (head ▸ digit) (by decide)
  case h_4 => rfl

/-- A decimal is what its text shows. -/
theorem ofShown_text (x : Decimal) : ofShown x.text = x := by
  cases x with
  | finite negative coefficient exponent =>
    obtain ⟨first, rest, same, digit⟩ := exists_first_coefficientText coefficient exponent
    rw [text, ofShown_of_isDigit same digit, shownParts_coefficientText]
  | infinite negative => cases negative <;> rfl
  | nan negative signaling payload =>
    have value : digitsValue (if payload = 0 then "" else String.ofList (digits payload)).toList =
        payload := by
      split
      case isTrue zero => exact zero.symm
      case isFalse => rw [String.toList_ofList, digitsValue_digits]
    simp only [text, ofShown, String.toList_append]
    cases negative <;> cases signaling <;> simp [splitSign, value]

/-- Different decimals have different texts. -/
theorem text_inj {x y : Decimal} (same : x.text = y.text) : x = y := by
  rw [← ofShown_text x, same, ofShown_text]

/-- The text of a coefficient without an exponent is that of a natural. -/
theorem coefficientText_zero (coefficient : Nat) :
    coefficientText coefficient 0 = toString coefficient := by
  have positive : 0 < (digits coefficient).length :=
    List.length_pos_iff.mpr (FloatLayout.digits_ne_nil coefficient)
  have high : -6 < ((digits coefficient).length : Int) := by omega
  have ahead : ¬ ((digits coefficient).length : Int) ≤ 0 := by omega
  rw [coefficientText]
  simp only [le_refl, true_and, zero_add, high, if_true, ahead, if_false, Int.toNat_natCast,
    Nat.sub_self, List.replicate_zero, List.append_nil, String.append_empty]
  rw [Nat.toString_eq_ofList_toDigits]
  rfl

/-- An integer has the text of the decimal that it is. -/
theorem text_ofInt (value : Int) : (ofInt value).text = toString value := by
  rw [ofInt, text, coefficientText_zero, Int.toString_eq_repr, Int.repr_eq_if,
    Nat.toString_eq_repr]
  rcases lt_or_ge value 0 with below | above
  · rw [if_pos (decide_eq_true below), if_neg (not_le.mpr below),
      show (-value).toNat = value.natAbs by omega]
  · rw [if_neg (by simpa using above), if_pos above, show value.toNat = value.natAbs by omega,
      String.empty_append]

/-- Different integers have different texts. -/
theorem toString_inj {first second : Int} (same : toString first = toString second) :
    first = second := by
  rw [← text_ofInt, ← text_ofInt] at same
  have parts := text_inj same
  simp only [ofInt, finite.injEq, decide_eq_decide] at parts
  omega

end Decimal

namespace Binary64

/-- The text of what is not finite is not the text of a number. -/
theorem ofText?_eq_none {x : Binary64} (infinite : x.isFinite = false) :
    ofText? x.text = none := by
  cases x with
  | nan => decide +kernel
  | infinite negative => cases negative <;> decide +kernel
  | finite => contradiction

/-- Different data that are not finite have different texts. -/
theorem eq_of_words {x y : Binary64} (infinite : x.isFinite = false)
    (infinite' : y.isFinite = false) (same : x.text = y.text) : x = y := by
  cases x with
  | finite => contradiction
  | nan =>
    cases y with
    | finite => contradiction
    | nan => rfl
    | infinite negative => cases negative <;> exact absurd same (by decide)
  | infinite negative =>
    cases y with
    | finite => contradiction
    | nan => cases negative <;> exact absurd same (by decide)
    | infinite negative' =>
      cases negative <;> cases negative' <;> first | rfl | exact absurd same (by decide)

section Reader

variable {shown : Binary64 → String} {read : String → Option Binary64} {x y : Binary64}

/-- Data are told apart by texts that a reader reads as the finite ones, if the words for what is
not finite are none of these texts. -/
theorem eq_of_reader (words : ∀ z, z.isFinite = false → shown z = z.text ∧ read z.text = none)
    (back : x.isFinite = true → read (shown x) = some x)
    (back' : y.isFinite = true → read (shown y) = some y) (same : shown x = shown y) : x = y := by
  cases finite : x.isFinite with
  | true =>
    have known := back finite
    cases finite' : y.isFinite with
    | true => exact Option.some_inj.mp (known.symm.trans (same ▸ back' finite'))
    | false =>
      rw [same, (words y finite').1, (words y finite').2] at known
      contradiction
  | false =>
    cases finite' : y.isFinite with
    | true =>
      have known := back' finite'
      rw [← same, (words x finite).1, (words x finite).2] at known
      contradiction
    | false =>
      rw [(words x finite).1, (words y finite').1] at same
      exact eq_of_words finite finite' same

/-- Different data have different texts. -/
theorem text_inj (same : x.text = y.text) : x = y :=
  eq_of_reader (fun _ infinite => ⟨rfl, ofText?_eq_none infinite⟩) ofText?_text ofText?_text same

/-- Different data of the 32-bit format have different texts of their own format. -/
theorem singleText_inj (single : x.IsSingle) (single' : y.IsSingle)
    (same : x.singleText = y.singleText) : x = y := by
  have words (z : Binary64) (infinite : z.isFinite = false) :
      z.singleText = z.text ∧ (ofText? z.text).map toSingle = none := by
    refine ⟨?_, by rw [ofText?_eq_none infinite, Option.map_none]⟩
    rw [singleText, infinite]
    rfl
  exact @eq_of_reader singleText (fun text => (ofText? text).map toSingle) x y words
    (fun finite => ofText?_singleText finite single)
    (fun finite => ofText?_singleText finite single') same

end Reader

end Binary64

end OrcRows
