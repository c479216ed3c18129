import OrcRows.Cell.Leaf

/-!
# Leaf values under the type of their column

A leaf value is presented as the type its column was given: anything as text, integers as
floating-point numbers, dates as timestamps, decimals with the scale of the type. All other values
are presented as they are.
-/

namespace OrcRows

namespace Value

/-- The text of a value. What is missing stays missing. -/
def toText (encoding : Encoding) : Value → Outcome Value
  | null => .ok null
  | text value => .ok (text value)
  | bool value => .ok (text (if value then "true" else "false"))
  | date value => .ok (text value.text)
  | time value => .ok (text value.text)
  | timestamp value => .ok (text value.text)
  | bytes value => (encoding.textOf value).map text
  | decimal value => .ok (text value.text)
  | value => .ok (text value.quoted)

/-- An integer as the nearest floating-point number; other values stay. -/
def toFloating (single : Bool) : Value → Outcome Value
  | int value => do
    let number ← Outcome.ofOption .tooLarge (Binary64.ofInt? value)
    return .float (if single then number.toSingle else number)
  | value => .ok value

/-- A date as its first moment; other values stay. -/
def toTimestamp : Value → Value
  | date value => .timestamp (.midnight value)
  | value => value

/-- The exponent of the last digit of numbers of a scale. It does not go below that of the smallest
unit there is, and a unit beyond the greatest is a fault. -/
def unitExponent (scale : Int) : Outcome Int :=
  if 2 * (Decimal.maxAdjusted + 28) < scale.natAbs then .error (.broken .notDecimal)
  else if Decimal.maxAdjusted < -scale then .error (.broken .decimalOverflow)
  else .ok (max (-scale) (-Decimal.maxAdjusted - 27))

/-- The number of digits that results of a precision may have: 28 at least, and no more than there
can be. -/
def digitLimit (precision : Int) : Outcome Nat :=
  if (Nat.pow 2 63 : Int) ≤ precision then .error (.broken .tooLarge)
  else if Decimal.maxLeading < precision then .error (.broken .badValue)
  else .ok (max precision 28).toNat

/-- A decimal with the scale of a type, in at most the greater of its precision and 28 digits; other
values stay. -/
def toScale (precision scale : Option Int) : Value → Outcome Value
  | decimal value => do
    let limit ← digitLimit (← Outcome.ofOption .illTyped precision)
    let unit ← unitExponent (← Outcome.ofOption .illTyped scale)
    return .decimal (← Outcome.ofOption .notDecimal (value.rescale? limit unit))
  | value => .ok value

/-- A leaf value under the type of its column. A 32-bit number has the text of its own format. -/
def present (policy : TextPolicy) (category : Category) (value : Value) :
    Option UnifiedType → Outcome Value
  | none => .ok value
  | some (.decimal precision scale) => value.toScale precision scale
  | some type =>
    match type.tag with
    | .string =>
      match value with
      | .float number =>
        .ok (.text (if category = .float then number.singleText else number.text))
      | other => other.toText policy.encoding
    | .float => value.toFloating true
    | .double => value.toFloating false
    | .timestamp => .ok value.toTimestamp
    | _ => .ok value

end Value

end OrcRows
