import OrcRows.Number.Rounding

/-!
# Decimal numbers

A decimal keeps its sign, coefficient and exponent apart, so `1.5` and `1.50` are different data of
the same value and a zero has a sign and an exponent. The module holds the text of decimals, the
reading of that text, and rescaling: the exponent is set, half to even, and the operation has no
result if the coefficient would need more digits than allowed.
-/

namespace OrcRows

open Rounding

/-- A decimal datum. -/
inductive Decimal where
  /-- The number `± coefficient * 10 ^ exponent`. -/
  | finite (negative : Bool) (coefficient : Nat) (exponent : Int)
  /-- An infinity of either sign. -/
  | infinite (negative : Bool)
  /-- Not a number, possibly signalling, with a diagnostic payload. -/
  | nan (negative signaling : Bool) (payload : Nat)
  deriving DecidableEq, Repr

namespace Decimal

/-- A sign in front of an exponent, always written. -/
def signedText (value : Int) : String :=
  (if value < 0 then "-" else "+") ++ String.ofList (digits value.natAbs)

/-- The digits of a coefficient with the decimal point placed by its exponent. A point is used if
the exponent is at most zero and the leading digit stands no further than six places behind it. -/
def coefficientText (coefficient : Nat) (exponent : Int) : String :=
  let shown := digits coefficient
  let left := exponent + shown.length
  let point := if exponent ≤ 0 ∧ -6 < left then left else 1
  let mark := if left = point then "" else "E" ++ signedText (left - point)
  let body :=
    if point ≤ 0 then "0." ++ String.ofList (List.replicate (-point).toNat '0' ++ shown)
    else if shown.length ≤ point.toNat then
      String.ofList (shown ++ List.replicate (point.toNat - shown.length) '0')
    else String.ofList (shown.take point.toNat) ++ "." ++ String.ofList (shown.drop point.toNat)
  body ++ mark

/-- The text of a decimal. -/
def text : Decimal → String
  | .finite negative coefficient exponent =>
    (if negative then "-" else "") ++ coefficientText coefficient exponent
  | .infinite negative => if negative then "-Infinity" else "Infinity"
  | .nan negative signaling payload =>
    (if negative then "-" else "") ++ (if signaling then "sNaN" else "NaN") ++
      (if payload = 0 then "" else String.ofList (digits payload))

/-- The value of a sequence of decimal digits, read from the left. -/
def digitsValue (shown : List Char) : Nat :=
  shown.foldl (fun value c => 10 * value + (c.toNat - '0'.toNat)) 0

/-- Splits off a sign. -/
def splitSign : List Char → Bool × List Char
  | '-' :: rest => (true, rest)
  | '+' :: rest => (false, rest)
  | rest => (false, rest)

/-- Reads an exponent mark with its digits, or nothing at the end of the text. -/
def exponentOf? : List Char → Option Int
  | [] => some 0
  | mark :: rest =>
    if mark = 'e' ∨ mark = 'E' then
      let signed := splitSign rest
      if signed.2 ≠ [] ∧ signed.2.all Char.isDigit then
        some (if signed.1 then -(digitsValue signed.2 : Int) else digitsValue signed.2)
      else none
    else none

/-- Largest exponent that the leading digit of a datum can have. -/
def maxLeading : Int := 999999999999999999

/-- Least exponent that a datum can have. -/
def minExponent : Int := -1999999999999999997

/-- Whether there is a datum with a coefficient and an exponent. -/
def isRepresentable (coefficient : Nat) (exponent : Int) : Bool :=
  minExponent ≤ exponent ∧ exponent + digitCount coefficient - 1 ≤ maxLeading

/-- Reads the digits of a number: a whole part, a fraction and an exponent. -/
def numberOf? (negative : Bool) (shown : List Char) : Option Decimal :=
  let whole := shown.takeWhile Char.isDigit
  let afterWhole := shown.dropWhile Char.isDigit
  let fraction := match afterWhole with
    | '.' :: rest => rest.takeWhile Char.isDigit
    | _ => []
  let afterFraction := match afterWhole with
    | '.' :: rest => rest.dropWhile Char.isDigit
    | rest => rest
  if whole = [] ∧ fraction = [] then none
  else do
    let coefficient := digitsValue (whole ++ fraction)
    let exponent := (← exponentOf? afterFraction) - fraction.length
    if isRepresentable coefficient exponent then some (.finite negative coefficient exponent)
    else none

/-- Reads the words for what is not a finite number, in any case. -/
def specialOf? (negative : Bool) (shown : List Char) : Option Decimal :=
  let word := shown.map Char.toLower
  let tagged (signaling : Bool) (payload : List Char) : Option Decimal :=
    if payload.all Char.isDigit then some (.nan negative signaling (digitsValue payload)) else none
  if word = "inf".toList ∨ word = "infinity".toList then some (.infinite negative)
  else match word with
    | 'n' :: 'a' :: 'n' :: payload => tagged false payload
    | 's' :: 'n' :: 'a' :: 'n' :: payload => tagged true payload
    | _ => none

/-- Reads a decimal from its text; `none` if the text is malformed. -/
def ofChars? (shown : List Char) : Option Decimal :=
  let signed := splitSign shown
  (numberOf? signed.1 signed.2).or (specialOf? signed.1 signed.2)

/-- An integer as a decimal with exponent zero. -/
def ofInt (value : Int) : Decimal := .finite (decide (value < 0)) value.natAbs 0

/-- The coefficient of `coefficient * 10 ^ exponent` after the exponent is set to `target`. Nothing
is left of a coefficient whose leading digit stands below the first digit that is cut off. -/
def shiftCoefficient (coefficient : Nat) (exponent target : Int) : Nat :=
  if target ≤ exponent then coefficient * Nat.pow 10 (exponent - target).toNat
  else if digitCount coefficient < (target - exponent).toNat then 0
  else halfEven coefficient (Nat.pow 10 (target - exponent).toNat)

/-- Digits that are cut off are rounded half to even, however many they are. -/
theorem shiftCoefficient_of_lt (coefficient : Nat) {exponent target : Int}
    (below : exponent < target) :
    shiftCoefficient coefficient exponent target =
      halfEven coefficient (Nat.pow 10 (target - exponent).toNat) := by
  rw [shiftCoefficient, if_neg (by omega)]
  split
  case isFalse => rfl
  case isTrue short =>
    obtain ⟨places, count⟩ : ∃ places, (target - exponent).toNat = places + 1 :=
      ⟨(target - exponent).toNat - 1, by omega⟩
    rw [count] at short ⊢
    have least := lt_pow_digitCount coefficient
    have wider : Nat.pow 10 (digitCount coefficient) ≤ Nat.pow 10 places :=
      Nat.pow_le_pow_right (by omega) (by omega)
    have unit : Nat.pow 10 (places + 1) = 10 * Nat.pow 10 places := Nat.mul_comm _ _
    have none : coefficient / Nat.pow 10 (places + 1) = 0 := Nat.div_eq_of_lt (by omega)
    have all : coefficient % Nat.pow 10 (places + 1) = coefficient := Nat.mod_eq_of_lt (by omega)
    simp only [halfEven, none, all]
    rw [if_pos (by omega)]

/-- Largest exponent of the leading digit of a result. -/
def maxAdjusted : Int := 999999

/-- The last digits of a payload, as many as allowed. -/
def fittingPayload (precision payload : Nat) : Nat :=
  if digitCount payload ≤ precision then payload else payload % Nat.pow 10 precision

/-- Sets the exponent of a decimal, rounding half to even. There is no result if the coefficient
would need more than `precision` digits or the exponent is out of bounds, and none for an infinity
or a signalling datum; a quiet datum that is not a number passes with what fits of its payload. -/
def rescale? (precision : Nat) (target : Int) : Decimal → Option Decimal
  | .infinite _ => none
  | .nan negative signaling payload =>
    if signaling then none else some (.nan negative false (fittingPayload precision payload))
  | .finite negative coefficient exponent =>
    if maxAdjusted < target ∨ target < -maxAdjusted - precision + 1 then none
    else if coefficient = 0 then some (.finite negative 0 target)
    else if (precision : Int) < digitCount coefficient + exponent - target then none
    else
      let shifted := shiftCoefficient coefficient exponent target
      if precision < digitCount shifted ∨ maxAdjusted < target + digitCount shifted - 1 then none
      else some (.finite negative shifted target)

/-- The exact value of a finite decimal. -/
def toRat? : Decimal → Option Rat
  | .finite negative coefficient exponent =>
    let ratio := ratioOf 10 coefficient exponent
    some (mkRat (if negative then -(ratio.1 : Int) else ratio.1) ratio.2)
  | _ => none

/-- Whether two decimals are the same number. Leading digits stand at the same place then, and the
coefficients agree at the lesser of the two exponents. -/
def sameNumber : Decimal → Decimal → Bool
  | .finite negative coefficient exponent, .finite negative' coefficient' exponent' =>
    if coefficient = 0 ∨ coefficient' = 0 then coefficient == coefficient'
    else negative == negative' &&
      exponent + digitCount coefficient == exponent' + digitCount coefficient' &&
      coefficient * Nat.pow 10 (exponent - exponent').toNat ==
        coefficient' * Nat.pow 10 (exponent' - exponent).toNat
  | .infinite negative, .infinite negative' => negative == negative'
  | _, _ => false

/-- A rescaled number keeps its sign and has the exponent asked for. -/
theorem exponent_of_rescale? {precision : Nat} {target exponent : Int} {negative : Bool}
    {coefficient : Nat} {result : Decimal}
    (rescaled : rescale? precision target (.finite negative coefficient exponent) = some result) :
    ∃ shifted, result = .finite negative shifted target := by
  simp only [rescale?] at rescaled
  split at rescaled
  · contradiction
  · split at rescaled
    · exact ⟨0, (Option.some.inj rescaled).symm⟩
    · split at rescaled
      · contradiction
      · split at rescaled
        · contradiction
        · exact ⟨_, (Option.some.inj rescaled).symm⟩

end Decimal

end OrcRows
