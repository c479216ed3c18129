import OrcRows.Number.Shortest

/-!
# Decimal text of floating-point numbers

A number is written with the fewest digits that read back, positionally for moderate exponents and
with an exponent mark otherwise. `FloatLayout` holds the decisions of the notation; the digits come
from `Scientific.shortest`. A number of the 32-bit format has a text of its own: the fewest digits
that read back after rounding to 32 bits.
-/

namespace OrcRows

open Rounding

/-- The decisions of a floating-point notation. -/
structure FloatLayout where
  /-- Least exponent of the leading digit that is written positionally. -/
  leastPositional : Int
  /-- First exponent of the leading digit that needs an exponent mark. -/
  firstScientific : Int
  /-- Least number of digits of an exponent. -/
  exponentWidth : Nat
  /-- Text of what is not a number. -/
  nan : String
  /-- Text of positive infinity. -/
  infinity : String

namespace FloatLayout

/-- Numbers from `1e-4` up to `1e16` are positional, exponents have a sign and two digits. -/
def standard : FloatLayout := ⟨-4, 16, 2, "nan", "inf"⟩

/-- A minus sign if asked for. -/
def sign (negative : Bool) : String := if negative then "-" else ""

/-- An exponent with its sign, padded to the width of the layout. -/
def exponentText (layout : FloatLayout) (exponent : Int) : String :=
  let shown := digits exponent.natAbs
  let padding := List.replicate (layout.exponentWidth - shown.length) '0'
  (if exponent < 0 then "-" else "+") ++ String.ofList (padding ++ shown)

/-- Digits with a point after the first `point` of them, filled up with zeros on either side. -/
def positional (shown : List Char) (point : Int) : String :=
  if point ≤ 0 then "0." ++ String.ofList (List.replicate (-point).toNat '0' ++ shown)
  else if shown.length ≤ point.toNat then
    String.ofList (shown ++ List.replicate (point.toNat - shown.length) '0') ++ ".0"
  else String.ofList (shown.take point.toNat) ++ "." ++ String.ofList (shown.drop point.toNat)

/-- A decimal without trailing zeros in the notation of the layout. -/
def decimalText (layout : FloatLayout) (decimal : Scientific) : String :=
  let shown := digits decimal.digits
  let leading := decimal.exponent + shown.length - 1
  if layout.leastPositional ≤ leading ∧ leading < layout.firstScientific then
    positional shown (leading + 1)
  else
    String.ofList (shown.take 1) ++ (if shown.length = 1 then "" else ".") ++
      String.ofList (shown.drop 1) ++ "e" ++ layout.exponentText leading

end FloatLayout

namespace Binary64

/-- The text of a floating-point number in a layout. -/
def textIn (layout : FloatLayout) (x : Binary64) : String :=
  match x with
  | .nan => layout.nan
  | .infinite negative => FloatLayout.sign negative ++ layout.infinity
  | .finite negative significand exponent _ =>
    if significand = 0 then FloatLayout.sign negative ++ "0.0"
    else
      let ratio := ratioOf 2 significand exponent
      FloatLayout.sign negative ++
        layout.decimalText (Scientific.shortest x negative ratio.1 ratio.2)

/-- The text of a floating-point number in the standard layout. -/
def text (x : Binary64) : String := x.textIn .standard

/-- A finite number rounded to a number of significant digits, as the nearest binary number. -/
def toDigits (x : Binary64) (count : Nat) : Binary64 :=
  match x with
  | .finite negative significand exponent _ =>
    if significand = 0 then x
    else
      let ratio := ratioOf 2 significand exponent
      (Scientific.ofRatio ratio.1 ratio.2 count).toBinary64 negative
  | _ => x

/-- The text of a number of the 32-bit format: the fewest digits, up to nine, whose number rounds
to it in that format. A number outside that format keeps its own text. -/
def singleText (x : Binary64) : String :=
  if x.isFinite then
    let candidates := (List.range 9).map fun count => x.toDigits (count + 1)
    ((candidates.find? fun candidate => candidate.toSingle.sameNumber x).getD x).text
  else x.text

end Binary64

end OrcRows
