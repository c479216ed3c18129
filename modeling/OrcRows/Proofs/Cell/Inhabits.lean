import OrcRows.Cell.Decode
import OrcRows.Proofs.Entries
import OrcRows.Proofs.Mapping
import OrcRows.Proofs.Number.Rescale
import OrcRows.Proofs.Number.Single

/-!
# Values that belong to a type, and leaf cells

`Value.Inhabits` says which values belong to a type of rows, and `LeafCells.Holds` which storage
belongs to a declared leaf type. A leaf cell read under the type that its column was given belongs
to that type; the only fault on the way is a moment outside the calendar.
-/

namespace OrcRows

/-- The range of a signed integer of some bits. -/
def FitsBits (bits : Nat) (value : Int) : Prop := -2 ^ (bits - 1) ≤ value ∧ value < 2 ^ (bits - 1)

/-- A wider range holds what a narrower one holds. -/
theorem FitsBits.mono {bits bits' : Nat} {value : Int} (h : FitsBits bits value)
    (hb : bits ≤ bits') : FitsBits bits' value := by
  have hpow : (2 : Int) ^ (bits - 1) ≤ 2 ^ (bits' - 1) :=
    pow_le_pow_right₀ (by norm_num) (by omega)
  obtain ⟨hl, hu⟩ := h
  exact ⟨by omega, by omega⟩

/-- Wrapping ends in the range of its bits. -/
theorem fitsBits_wrap {bits : Nat} (hb : 0 < bits) (value : Int) :
    FitsBits bits (wrap bits value) := by
  have hhalf : (2 : Nat) ^ bits = 2 * 2 ^ (bits - 1) := by
    rw [← Nat.pow_succ']
    congr 1
    omega
  have hl := Int.le_bmod (x := value) (m := 2 ^ bits) (Nat.two_pow_pos _)
  have hu := Int.bmod_lt (x := value) (m := 2 ^ bits) (Nat.two_pow_pos _)
  have hcast : ((2 ^ (bits - 1) : Nat) : Int) = 2 ^ (bits - 1) := by push_cast; rfl
  rw [wrap_eq_bmod hb, FitsBits, ← hcast, Nat.pow_eq]
  rw [hhalf] at hl hu ⊢
  push_cast at hl hu ⊢
  omega

/-- A value in the range of its bits is not changed by wrapping. -/
theorem wrap_of_fitsBits {bits : Nat} {value : Int} (hb : 0 < bits) (h : FitsBits bits value) :
    wrap bits value = value := by
  obtain ⟨hl, hu⟩ := h
  have hhalf : (2 : Int) ^ bits = 2 * 2 ^ (bits - 1) := by
    rw [← pow_succ']
    congr 1
    omega
  have hmodulus : ((Nat.pow 2 bits : Nat) : Int) = 2 ^ bits := by
    rw [Nat.pow_eq]
    push_cast
    rfl
  rw [wrap_eq_bmod hb]
  apply Int.bmod_eq_of_le
  · omega
  · omega

/-- The number of bits of an integer tag. -/
def TypeTag.bits? : TypeTag → Option Nat
  | tinyint => some 8
  | smallint => some 16
  | int => some 32
  | bigint => some 64
  | _ => none

/-- Integers widen to floating-point numbers and to integers of more bits. -/
theorem TypeTag.widens_bits {tag wider : TypeTag} {bits : Nat} (hb : tag.bits? = some bits)
    (hw : tag.widens wider = true) :
    wider = .float ∨ wider = .double ∨ ∃ bits', wider.bits? = some bits' ∧ bits ≤ bits' := by
  cases tag <;> cases wider <;> simp_all [bits?, widens, integerRank?] <;> omega

namespace UnifiedType

mutual

/-- No decimal type in a type has more digits than there can be. -/
def PrecisionsWithin : UnifiedType → Prop
  | decimal (some precision) _ => precision ≤ Decimal.greatestPrecision
  | array element => element.PrecisionsWithin
  | map key value => key.PrecisionsWithin ∧ value.PrecisionsWithin
  | row fields => FieldPrecisionsWithin fields
  | _ => True

/-- No decimal type in the types of fields has more digits than there can be. -/
def FieldPrecisionsWithin : List (String × UnifiedType) → Prop
  | [] => True
  | (_, type) :: rest => type.PrecisionsWithin ∧ FieldPrecisionsWithin rest

end

end UnifiedType

namespace Value

/-- The values without parts that belong to a tag. -/
def InhabitsTag : TypeTag → Value → Prop
  | tag, int value => ∃ bits, tag.bits? = some bits ∧ FitsBits bits value
  | .boolean, bool _ => True
  | .float, float number => number.IsSingle
  | .double, float _ => True
  | .string, text _ => True
  | .bytes, bytes _ => True
  | .date, date _ => True
  | .time, time _ => True
  | .timestamp, timestamp _ => True
  | _, _ => False

mutual

/-- The values that belong to a type: integers and 32-bit numbers in range, decimals of the scale
and with no more digits than the precision, arrays, maps with distinct keys and rows of values that
belong to the types of their parts or are missing. -/
def Inhabits : UnifiedType → Value → Prop
  | .basic tag, value => InhabitsTag tag value
  | .decimal (some precision) (some scale), decimal (.finite _ coefficient exponent) =>
    exponent = -scale ∧ coefficient < 10 ^ precision.toNat
  | .array element, list elements =>
    ∀ value ∈ elements, value = null ∨ Inhabits element value
  | .map key value, map entries =>
    (∀ entry ∈ entries, (entry.1 = null ∨ Inhabits key entry.1) ∧
      (entry.2 = null ∨ Inhabits value entry.2)) ∧
    DistinctKeys entries
  | .row fields, row values none => InhabitsAll fields values
  | _, _ => False

/-- There are as many values as fields, and each belongs to the type at its place or is missing. -/
def InhabitsAll : List (String × UnifiedType) → List Value → Prop
  | [], [] => True
  | (_, type) :: fields, value :: values =>
    (value = null ∨ Inhabits type value) ∧ InhabitsAll fields values
  | _, _ => False

end

end Value

/-- A fault that reports a date or a timestamp outside the years 1 to 9999. -/
def Fault.IsOutOfCalendar (fault : Fault) : Prop :=
  (∃ (category : Category) (day : Int), Date.ofEpochDay? day = none ∧
    fault = .report .unsupportedDataType "date value out of range"
      [("category", .text category.name), ("value", .int day)]) ∨
  ∃ (category : Category) (millis nanos : Int), Timestamp.ofMillisNanos? millis nanos = none ∧
    fault = .report .unsupportedDataType "timestamp value out of range"
      [("category", .text category.name), ("millis", .int millis)]

namespace Category

/-- Categories that are stored as integers. -/
def isWhole : Category → Bool
  | boolean | tinyint | smallint | int | bigint | date => true
  | _ => false

/-- Categories that are stored as floating-point numbers. -/
def isFloating : Category → Bool
  | float | double => true
  | _ => false

/-- Categories that are stored as bytes. -/
def isBytes : Category → Bool
  | string | varchar | char | binary => true
  | _ => false

/-- Categories that may be stored as timestamps. -/
def isMoment : Category → Bool
  | date | timestamp => true
  | _ => false

end Category

/-- Leaf storage of the kind of a declared leaf type reaches a place, and what it has there is in
the range of the storage and of the type: integers have 64 bits, and decimals fit their precision
and scale. -/
inductive LeafCells.Holds (place : Int) : LeafCells → NativeType → Prop
  | long {values : List Int} {category : Category} {children : List NativeType}
      {fieldNames : List String} {precision scale : Option Int} {value : Int}
      (kind : category.isWhole = true) (found : Position.get? values place = some value)
      (range : FitsBits 64 value) :
      Holds place (.long values) (.node category children fieldNames precision scale)
  | double {values : List Binary64} {category : Category} {children : List NativeType}
      {fieldNames : List String} {precision scale : Option Int} {value : Binary64}
      (kind : category.isFloating = true) (found : Position.get? values place = some value) :
      Holds place (.double values) (.node category children fieldNames precision scale)
  | bytes {values : List (List UInt8)} {category : Category} {children : List NativeType}
      {fieldNames : List String} {precision scale : Option Int} {value : List UInt8}
      (kind : category.isBytes = true) (found : Position.get? values place = some value) :
      Holds place (.bytes values) (.node category children fieldNames precision scale)
  | decimal {values : List Value} {children : List NativeType} {fieldNames : List String}
      {precision scale : Int} {value : Decimal}
      (found : Position.get? values place = some (.decimal value)) (least : 0 ≤ scale)
      (most : scale ≤ precision) (range : value.Fits precision scale) :
      Holds place (.decimal values)
        (.node .decimal children fieldNames (some precision) (some scale))
  | timestamp {millis nanos : List Int} {category : Category} {children : List NativeType}
      {fieldNames : List String} {precision scale : Option Int} {milli nano : Int}
      (kind : category.isMoment = true) (foundMilli : Position.get? millis place = some milli)
      (foundNano : Position.get? nanos place = some nano) :
      Holds place (.timestamp millis nanos) (.node category children fieldNames precision scale)

end OrcRows
