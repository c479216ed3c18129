import OrcRows.Text.CharClass
import OrcRows.Text.Encoding
import OrcRows.Vector
import OrcRows.Unified

/-!
# Leaf cells

A leaf cell is read from flat storage and narrowed by the category its column declares: integers to
truth values, to fewer bits or to dates, floating-point numbers to the 32-bit format, bytes to text.
Bytes are decoded in the encoding of the caller's choice; bytes that begin like an image may be
kept.
-/

namespace OrcRows

/-- How bytes become text. -/
structure TextPolicy where
  /-- The encoding of text. -/
  encoding : Encoding
  /-- Bytes that begin like an image stay bytes. -/
  keepsImages : Bool

/-- UTF-8, and images are text like anything else. -/
def TextPolicy.standard : TextPolicy := ⟨.utf8, false⟩

/-- The lowest bits of an integer in two's complement: below zero, the bits that its complement
lacks. -/
def lowBits (bits : Nat) : Int → Nat
  | .ofNat n => n &&& (1 <<< bits - 1)
  | .negSucc n => (1 <<< bits - 1) ^^^ (n &&& (1 <<< bits - 1))

/-- The lowest bits of a value as an integer: the highest of them counts below zero. -/
def wrap (bits : Nat) (value : Int) : Int :=
  let low := lowBits bits value
  if low >>> (bits - 1) = 0 then low else low - (1 <<< bits : Nat)

/-- What a mask holds beside some of its bits is the rest of it. -/
theorem mask_xor {bits low : Nat} (h : low < Nat.pow 2 bits) :
    (Nat.pow 2 bits - 1) ^^^ low = Nat.pow 2 bits - 1 - low := by
  rw [Nat.pow_eq] at *
  apply Nat.eq_of_testBit_eq
  intro place
  rw [Nat.testBit_xor, Nat.testBit_two_pow_sub_one, Nat.sub_sub, Nat.add_comm 1,
    Nat.testBit_two_pow_sub_succ h]
  by_cases inside : place < bits
  · simp [inside]
  · have wide : low < 2 ^ place :=
      Nat.lt_of_lt_of_le h (Nat.pow_le_pow_right (by decide) (Nat.le_of_not_lt inside))
    simp [inside, Nat.testBit_lt_two_pow wide]

/-- The lowest bits are the remainder modulo the power of two. -/
theorem lowBits_eq_emod (bits : Nat) (value : Int) :
    (lowBits bits value : Int) = value % (Nat.pow 2 bits : Nat) := by
  have positive : 0 < Nat.pow 2 bits := Nat.two_pow_pos bits
  cases value with
  | ofNat n =>
    rw [lowBits, Nat.one_shiftLeft, Nat.and_two_pow_sub_one_eq_mod]
    rfl
  | negSucc n =>
    have mask := mask_xor (Nat.mod_lt n positive)
    have small := Nat.mod_lt n positive
    rw [Nat.pow_eq] at *
    rw [lowBits, Nat.one_shiftLeft, Nat.and_two_pow_sub_one_eq_mod, mask,
      Int.negSucc_emod n (by omega)]
    omega

/-- Wrapping goes to the remainder that is nearest to zero. -/
theorem wrap_eq_bmod {bits : Nat} (positive : 0 < bits) (value : Int) :
    wrap bits value = value.bmod (Nat.pow 2 bits) := by
  have low := lowBits_eq_emod bits value
  have half : Nat.pow 2 bits = 2 * 2 ^ (bits - 1) := by
    rw [Nat.pow_eq, ← Nat.pow_succ']
    congr 1
    omega
  -- The highest of the lowest bits is unset where these stay below the half of the modulus.
  have top : lowBits bits value >>> (bits - 1) = 0 ↔ lowBits bits value < 2 ^ (bits - 1) := by
    rw [Nat.shiftRight_eq_div_pow, Nat.div_eq_zero_iff]
    have := Nat.two_pow_pos (bits - 1)
    omega
  rw [wrap, Int.bmod_def, ← low, Nat.one_shiftLeft, ← Nat.pow_eq]
  simp only [top, half]
  split <;> split <;> omega

/-- Wrapping changes a value by a multiple of the modulus. -/
theorem wrap_emod (bits : Nat) (value : Int) :
    wrap bits value % (Nat.pow 2 bits : Nat) = value % (Nat.pow 2 bits : Nat) := by
  rw [wrap, Nat.one_shiftLeft, ← Nat.pow_eq]
  split
  · rw [lowBits_eq_emod, Int.emod_emod]
  · rw [lowBits_eq_emod, Int.sub_emod_right, Int.emod_emod]

/-- The first bytes of the two image formats that are told from text. -/
def imageSignatures : List (List UInt8) := [[0xff, 0xd8], [0x89, 0x50, 0x4e, 0x47]]

/-- Whether bytes begin like an image. -/
def hasImageSignature (bytes : List UInt8) : Bool := imageSignatures.any (·.isPrefixOf bytes)

/-- The breakdown of a read whose bytes have no characters. -/
def DecodeFault.cause : DecodeFault → Breakdown
  | noDecoder => .noDecoder
  | undecodable => .undecodable

/-- Bytes as text. No bytes are the empty text in every encoding, whether it decodes any or not. -/
def Encoding.textOf (encoding : Encoding) (bytes : List UInt8) : Outcome String :=
  if bytes.isEmpty then .ok ""
  else match encoding.decode bytes with
    | .ok chars => .ok (String.ofList chars)
    | .error fault => .error (.broken fault.cause)

/-- Bytes in UTF-8 always are text. -/
theorem Encoding.textOf_utf8 (bytes : List UInt8) :
    utf8.textOf bytes = .ok (String.ofList (Utf8.decode bytes)) := by
  cases bytes with
  | nil => rfl
  | cons byte rest => rfl

namespace Decimal

/-- Reads a decimal from a text: blanks around it and underscores do not count, and the digits of
any script are digits. -/
def ofText? (text : String) : Option Decimal :=
  ofChars? (((CharClass.trim CharClass.isSpace text.toList).filter (· ≠ '_')).map fun c =>
    if CharClass.isDigit c then Char.ofNat ('0'.toNat + CharClass.digitValue c) else c)

/-- The decimal that a stored value stands for. -/
def ofValue? : Value → Option Decimal
  | .decimal value => some value
  | .int value => some (ofInt value)
  | .float value => ofText? value.text
  | .text value => ofText? value
  | _ => none

end Decimal

/-- The value of an integer cell. -/
def longValue (category : Category) (value : Int) : Outcome Value :=
  match category with
  | .boolean => .ok (.bool (value ≠ 0))
  | .int => .ok (.int (wrap 32 value))
  | .tinyint => .ok (.int (wrap 8 value))
  | .smallint => .ok (.int (wrap 16 value))
  | .date =>
    match Date.ofEpochDay? value with
    | some date => .ok (.date date)
    | none => .error (.report .unsupportedDataType "date value out of range"
        [("category", .text category.name), ("value", .int value)])
  | _ => .ok (.int value)

/-- The value of a floating-point cell. -/
def doubleValue (category : Category) (value : Binary64) : Value :=
  .float (if category = .float then value.toSingle else value)

/-- The value of a cell of bytes. -/
def bytesValue (policy : TextPolicy) (category : Category) (value : List UInt8) : Outcome Value :=
  if category = .binary ∨ (policy.keepsImages ∧ hasImageSignature value) then .ok (.bytes value)
  else (policy.encoding.textOf value).map .text

/-- The value of a timestamp cell: the time of day if a time is asked for, the date if the column
declares dates. -/
def timestampValue (category : Category) (unified : Option UnifiedType) (millis nanos : Int) :
    Outcome Value :=
  match Timestamp.ofMillisNanos? millis nanos with
  | none => .error (.report .unsupportedDataType "timestamp value out of range"
      [("category", .text category.name), ("millis", .int millis)])
  | some timestamp =>
    if category = .date then .ok (.date timestamp.date)
    else if unified.map (·.tag) = some .time then .ok (.time timestamp.time)
    else .ok (.timestamp timestamp)

/-- The value at a place of leaf storage. -/
def LeafCells.value (cells : LeafCells) (policy : TextPolicy) (category : Category)
    (unified : Option UnifiedType) (place : Int) : Outcome Value :=
  let entry {α : Type} (values : List α) : Outcome α :=
    Outcome.ofOption .outOfRange (Position.get? values place)
  match cells with
  | long values => entry values >>= longValue category
  | double values => (entry values).map (doubleValue category)
  | bytes values => entry values >>= bytesValue policy category
  | decimal values => do
    let stored ← entry values
    let value ← Outcome.ofOption .notDecimal (Decimal.ofValue? stored)
    return .decimal value
  | timestamp millis nanos => do
    let milli ← entry millis
    let nano ← entry nanos
    timestampValue category unified milli nano

end OrcRows
