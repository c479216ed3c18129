import OrcRows.Number.Binary64

/-!
# The shortest decimal that reads back

Of all decimals that round to a given binary number, the shortest has the fewest digits, and among
those it is the nearest to the number. On a grid of decimals only the two neighbours of the number
can be nearest, so each digit count needs two exact tests.
-/

namespace OrcRows

open Rounding

/-- The decimal `digits * 10 ^ exponent`. -/
structure Scientific where
  /-- All significant digits as one natural. -/
  digits : Nat
  /-- Power of ten of the last digit. -/
  exponent : Int
  deriving DecidableEq, Repr

namespace Scientific

/-- The exponent `e` with `10 ^ e ≤ num / den < 10 ^ (e + 1)`, for a positive ratio. -/
def decade (num den : Nat) : Int :=
  if den ≤ num then (digitCount (num / den) : Int) - 1 else -(digitCount ((den - 1) / num) : Int)

/-- Removes trailing zeros, at most `fuel` of them, keeping the value. -/
def trimZeros : Nat → Scientific → Scientific
  | 0, decimal => decimal
  | fuel + 1, decimal =>
    if decimal.digits % 10 = 0 then trimZeros fuel ⟨decimal.digits / 10, decimal.exponent + 1⟩
    else decimal

/-- A ratio rounded to a number of significant digits, an exact half to the even digit. -/
def ofRatio (num den count : Nat) : Scientific :=
  let exponent := decade num den - count + 1
  let scaled := scaleDown 10 num den exponent
  ⟨halfEven scaled.1 scaled.2, exponent⟩

/-- The number nearest to a decimal with a sign. -/
def toBinary64 (negative : Bool) (decimal : Scientific) : Binary64 :=
  Binary64.ofScientific negative 10 decimal.digits decimal.exponent

/-- The neighbour of `num / den` on the grid of multiples of `10 ^ exponent` that reads back as
`target`, the nearer one if both do. -/
def onGrid? (target : Binary64) (negative : Bool) (num den : Nat) (exponent : Int) :
    Option Scientific :=
  let scaled := scaleDown 10 num den exponent
  let below : Scientific := ⟨scaled.1 / scaled.2, exponent⟩
  let above : Scientific := ⟨scaled.1 / scaled.2 + 1, exponent⟩
  let remainder := scaled.1 % scaled.2
  let nearer := if 2 * remainder < scaled.2 ∨ (2 * remainder = scaled.2 ∧ below.digits % 2 = 0)
    then [below, above] else [above, below]
  nearer.find? fun decimal => decide (decimal.toBinary64 negative = target)

/-- The shortest decimal that reads back as `target`, whose absolute value is `num / den`. -/
def shortest (target : Binary64) (negative : Bool) (num den : Nat) : Scientific :=
  let top := decade num den
  let found := (List.range 17).findSome? fun (count : Nat) =>
    onGrid? target negative num den (top - count)
  trimZeros 20 (found.getD (ofRatio num den 17))

end Scientific

end OrcRows
