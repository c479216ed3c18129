import OrcRows.Number.Rounding

/-!
# Binary floating-point numbers as exact data

A binary64 number is a sign, a significand and a power of two in normal form, an infinity, or not
a number. All arithmetic is on naturals: a ratio is rounded once, to the nearest number of a
format, an exact half to the even significand. Nothing here uses machine floats, so every
statement about these values is a statement about integers.
-/

namespace OrcRows

open Rounding

/-- A binary format: `precision` bits of significand and the exponents of the last place. -/
structure BinaryFormat where
  /-- Number of bits of a normal significand. -/
  precision : Nat
  /-- Exponent of the last place of the smallest numbers. -/
  minExponent : Int
  /-- Exponent of the last place of the largest numbers. -/
  maxExponent : Int
  deriving DecidableEq, Repr

namespace BinaryFormat

/-- The 64-bit interchange format. -/
def double : BinaryFormat := ⟨53, -1074, 971⟩

/-- The 32-bit interchange format. -/
def single : BinaryFormat := ⟨24, -149, 104⟩

/-- The 16-bit interchange format. -/
def half : BinaryFormat := ⟨11, -24, 5⟩

/-- The exponent `e` with `2 ^ e ≤ num / den < 2 ^ (e + 1)`, for a positive ratio. -/
def binade (num den : Nat) : Int :=
  let estimate : Int := (num.log2 : Int) - den.log2
  let scaled := scaleDown 2 num den estimate
  if scaled.1 < scaled.2 then estimate - 1 else estimate

/-- The significand and exponent of the number nearest to a ratio, exponents unbounded above. -/
def nearest (format : BinaryFormat) (num den : Nat) : Nat × Int :=
  if num = 0 then (0, format.minExponent)
  else
    let exponent := max format.minExponent (binade num den - (format.precision - 1))
    let scaled := scaleDown 2 num den exponent
    let significand := halfEven scaled.1 scaled.2
    if significand = Nat.pow 2 format.precision then
      (Nat.pow 2 (format.precision - 1), exponent + 1)
    else (significand, exponent)

end BinaryFormat

/-- Normal form of a binary64 significand and exponent: 53 bits, all used unless the exponent is
least. -/
def IsCanonical (significand : Nat) (exponent : Int) : Prop :=
  significand < Nat.pow 2 53 ∧ -1074 ≤ exponent ∧ exponent ≤ 971 ∧
    (Nat.pow 2 52 ≤ significand ∨ exponent = -1074)

instance (significand : Nat) (exponent : Int) : Decidable (IsCanonical significand exponent) :=
  inferInstanceAs (Decidable (_ ∧ _))

/-- A binary64 datum. -/
inductive Binary64 where
  /-- Not a number; there is one such datum. -/
  | nan
  /-- An infinity of either sign. -/
  | infinite (negative : Bool)
  /-- The number `± significand * 2 ^ exponent`; zero has a sign too. -/
  | finite (negative : Bool) (significand : Nat) (exponent : Int)
      (canonical : IsCanonical significand exponent)
  deriving DecidableEq

namespace Binary64

/-- Positive zero. -/
def zero : Binary64 := .finite false 0 (-1074) (by decide)

/-- A significand and exponent as a datum; what is out of range is an infinity. -/
def ofParts (negative : Bool) (parts : Nat × Int) : Binary64 :=
  if canonical : IsCanonical parts.1 parts.2 then .finite negative parts.1 parts.2 canonical
  else .infinite negative

/-- The number nearest to `± num / den`. -/
def ofRatio (negative : Bool) (num den : Nat) : Binary64 :=
  ofParts negative (BinaryFormat.double.nearest num den)

/-- The number nearest to `± significand * base ^ exponent`. -/
def ofScientific (negative : Bool) (base significand : Nat) (exponent : Int) : Binary64 :=
  let ratio := ratioOf base significand exponent
  ofRatio negative ratio.1 ratio.2

/-- The number nearest to an integer, if the integer lies in the range of finite numbers. -/
def ofInt? (value : Int) : Option Binary64 :=
  match ofRatio (decide (value < 0)) value.natAbs 1 with
  | .finite negative significand exponent canonical =>
    some (.finite negative significand exponent canonical)
  | _ => none

/-- The number rounded once more, to a narrower format; beyond that range it becomes infinite. -/
def narrow (format : BinaryFormat) : Binary64 → Binary64
  | .nan => .nan
  | .infinite negative => .infinite negative
  | .finite negative significand exponent _ =>
    let ratio := ratioOf 2 significand exponent
    let parts := format.nearest ratio.1 ratio.2
    if format.maxExponent < parts.2 then .infinite negative
    else ofScientific negative 2 parts.1 parts.2

/-- The nearest number of the 32-bit format. -/
def toSingle (x : Binary64) : Binary64 := x.narrow .single

/-- True of numbers, false of infinities and of what is not a number. -/
def isFinite : Binary64 → Bool
  | .finite .. => true
  | _ => false

/-- Equality of numbers: zeros of either sign are equal, and what is not a number equals nothing. -/
def sameNumber : Binary64 → Binary64 → Bool
  | .nan, _ => false
  | _, .nan => false
  | .finite n m q c, .finite n' m' q' c' =>
    (m == 0 && m' == 0) || decide (Binary64.finite n m q c = .finite n' m' q' c')
  | x, y => decide (x = y)

/-- The exact value of a finite number. -/
def toRat? : Binary64 → Option Rat
  | .finite negative significand exponent _ =>
    let ratio := ratioOf 2 significand exponent
    some (mkRat (if negative then -(ratio.1 : Int) else ratio.1) ratio.2)
  | _ => none

/-- Reading the 64-bit interchange encoding. -/
def ofBits (word : UInt64) : Binary64 :=
  let bits := word.toNat
  let negative := decide (Nat.pow 2 63 ≤ bits)
  let biased : Nat := bits / Nat.pow 2 52 % Nat.pow 2 11
  let fraction : Nat := bits % Nat.pow 2 52
  if biased = 2047 then (if fraction = 0 then .infinite negative else .nan)
  else if biased = 0 then ofParts negative (fraction, -1074)
  else ofParts negative (Nat.pow 2 52 + fraction, (biased : Int) - 1075)

/-- The 64-bit interchange encoding; what is not a number has one encoding. -/
def toBits : Binary64 → UInt64
  | .nan => 0x7ff8000000000000
  | .infinite negative => if negative then 0xfff0000000000000 else 0x7ff0000000000000
  | .finite negative significand exponent _ =>
    let biased := if significand < Nat.pow 2 52 then 0 else (exponent + 1075).toNat
    UInt64.ofNat ((if negative then Nat.pow 2 63 else 0) + biased * Nat.pow 2 52 +
      significand % Nat.pow 2 52)

/-- Equality of numbers is symmetric. -/
theorem sameNumber_comm (x y : Binary64) : sameNumber x y = sameNumber y x := by
  cases x <;> cases y <;> simp [sameNumber, Bool.and_comm, eq_comm]

/-- Every datum but the one that is not a number equals itself. -/
theorem sameNumber_self {x : Binary64} (number : x ≠ .nan) : sameNumber x x = true := by
  cases x <;> simp_all [sameNumber]

end Binary64

end OrcRows
