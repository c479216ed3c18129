import OrcRows.Proofs.CalendarText
import OrcRows.Proofs.Cell.Walk
import OrcRows.Proofs.Cell.WholeNumbers
import OrcRows.Proofs.Number.DistinctTexts
import OrcRows.Proofs.Number.SameDecimals

/-!
# Keys under the type of their map

The keys of a map are presented before its entries are collected, so two keys make one entry if they
are presented as the same. Most presentations keep different leaves of a column different: the texts
of numbers, dates and moments can be read back, and a date is told by its first moment. What a type
does not show, and what it shows of one number in two ways, is asked of the keys.
-/

namespace OrcRows

open Outcome BinaryFormat

namespace Value

variable {policy : TextPolicy} {category : Category} {type : UnifiedType} {a b a' b' : Value}

/-- What is asked of two keys, so that they are the same under a type exactly if they are the same
without one. As text, a number is told from those that it is not equal to but not from itself
written in another way, and bytes are told by what the encoding makes of them. A time does not tell
the date, a floating-point type rounds integers that its format does not hold, and a scale rounds
decimals that are no whole number of its units. -/
def KeptApart (policy : TextPolicy) (type : UnifiedType) (a b : Value) : Prop :=
  match a, b with
  | int x, int y =>
    (type.tag = .float → single.Holds x.natAbs ∧ single.Holds y.natAbs) ∧
      (type.tag = .double → double.Holds x.natAbs ∧ double.Holds y.natAbs)
  | float x, float y => type.tag = .string → (same (float x) (float y) = true ↔ x = y)
  | decimal x, decimal y =>
    (type.tag = .string → (same (decimal x) (decimal y) = true ↔ x = y)) ∧
      ∀ precision scale unit, type = .decimal precision (some scale) →
        unitExponent scale = .ok unit → x.IsWholeAt unit ∧ y.IsWholeAt unit
  | bytes x, bytes y =>
    type.tag = .string → policy.encoding.textOf x = policy.encoding.textOf y → x = y
  | bytes x, text y | text y, bytes x => type.tag = .string → policy.encoding.textOf x ≠ .ok y
  | timestamp x, timestamp y => type.tag = .time → x.time = y.time → x = y
  | _, _ => True

/-- Two leaves that the storage of one column can hold. -/
def OfOneColumn (category : Category) : Value → Value → Prop
  | bool _, bool _ | int _, int _ | date _, date _ | timestamp _, timestamp _
  | decimal _, decimal _ => True
  | text _, text _ | bytes _, bytes _ | bytes _, text _ | text _, bytes _ => True
  | float x, float y => category = .float → x.IsSingle ∧ y.IsSingle
  | _, _ => False

section Same

/-- Truth values are the same if they are equal. -/
theorem same_bool {x y : Bool} : same (bool x) (bool y) = true ↔ x = y := by
  cases x <;> cases y <;> decide

/-- Integers are the same if they are equal. -/
theorem same_int {x y : Int} : same (int x) (int y) = true ↔ x = y :=
  show (x == y) = true ↔ _ from beq_iff_eq

/-- Decimals are the same if they are the same number. -/
theorem same_decimal {x y : Decimal} : same (decimal x) (decimal y) = x.sameNumber y := rfl

/-- Texts are the same if they are equal. -/
theorem same_text {x y : String} : same (text x) (text y) = true ↔ x = y :=
  show (x == y) = true ↔ _ from beq_iff_eq

/-- Bytes are the same if they are equal. -/
theorem same_bytes {x y : List UInt8} : same (bytes x) (bytes y) = true ↔ x = y :=
  show (x == y) = true ↔ _ from beq_iff_eq

/-- Bytes are no text. -/
theorem same_bytes_text {x : List UInt8} {y : String} : same (bytes x) (text y) = false := rfl

/-- Text is no bytes. -/
theorem same_text_bytes {x : String} {y : List UInt8} : same (text x) (bytes y) = false := rfl

/-- Dates are the same if they are equal. -/
theorem same_date {x y : Date} : same (date x) (date y) = true ↔ x = y :=
  show (x == y) = true ↔ _ from beq_iff_eq

/-- Times of day are the same if they are equal. -/
theorem same_time {x y : TimeOfDay} : same (time x) (time y) = true ↔ x = y :=
  show (x == y) = true ↔ _ from beq_iff_eq

/-- Moments are the same if they are equal. -/
theorem same_timestamp {x y : Timestamp} : same (timestamp x) (timestamp y) = true ↔ x = y :=
  show (x == y) = true ↔ _ from beq_iff_eq

/-- Finite floating-point numbers are the same if their numbers are equal. -/
theorem same_float {x y : Binary64} {u v : ℚ} (hx : x.toRat? = some u) (hy : y.toRat? = some v) :
    same (float x) (float y) = true ↔ u = v := by
  have magnitude {z : Binary64} {w : ℚ} (h : z.toRat? = some w) :
      (float z).magnitude? = some (.finite w) := by
    cases z with
    | nan | infinite => cases h
    | finite => simp only [magnitude?, h, Option.map_some]
  have compared : same (float x) (float y) = sameMagnitude (float x) (float y) := rfl
  rw [compared, sameMagnitude, magnitude hx, magnitude hy]
  all_goals simp

end Same

/-- Different numbers that a floating-point column holds have different texts under the format of
the column. -/
theorem floatText_inj {x y : Binary64} (alike : OfOneColumn category (float x) (float y))
    (same : (if category = .float then x.singleText else x.text) =
      if category = .float then y.singleText else y.text) : x = y := by
  split at same
  case isTrue narrow => exact Binary64.singleText_inj (alike narrow).1 (alike narrow).2 same
  case isFalse => exact Binary64.text_inj same

/-- Bytes that the encoding keeps apart are the same as text exactly if they are the same. -/
theorem same_textOf_bytes {x y : List UInt8} {shown shown' : String}
    (apart : policy.encoding.textOf x = policy.encoding.textOf y → x = y)
    (hx : policy.encoding.textOf x = .ok shown) (hy : policy.encoding.textOf y = .ok shown') :
    same (text shown) (text shown') = true ↔ same (bytes x) (bytes y) = true := by
  rw [same_text, same_bytes]
  constructor
  · rintro rfl
    exact apart (hx.trans hy.symm)
  · rintro rfl
    exact Except.ok.inj (hx.symm.trans hy)

/-- Bytes are not shown as a text that the encoding does not make of them. -/
theorem ne_of_textOf {x : List UInt8} {y shown : String} (apart : policy.encoding.textOf x ≠ .ok y)
    (hx : policy.encoding.textOf x = .ok shown) : shown ≠ y := by
  rintro rfl
  exact apart hx

/-- Leaves of a column that text keeps apart are the same as text exactly if they are the same. -/
theorem same_underText (alike : OfOneColumn category a b)
    (apart : KeptApart policy (.basic .string) a b)
    (ha : a.present policy category (some (.basic .string)) = .ok a')
    (hb : b.present policy category (some (.basic .string)) = .ok b') : same a' b' = same a b := by
  rw [Bool.eq_iff_iff]
  cases a with
  | bool x =>
    cases b with
    | bool y =>
      cases ha
      cases hb
      rw [same_text, same_bool]
      cases x <;> cases y <;> decide
    | _ => exact alike.elim
  | int x =>
    cases b with
    | int y =>
      cases ha
      cases hb
      rw [same_text, same_int]
      exact ⟨Decimal.toString_inj, congrArg toString⟩
    | _ => exact alike.elim
  | text x =>
    cases b with
    | text y =>
      cases ha
      cases hb
      exact Iff.rfl
    | bytes y =>
      obtain ⟨shown, hshown, rfl⟩ := map_eq_ok hb
      cases ha
      simp only [same_text, same_text_bytes, Bool.false_eq_true, iff_false]
      exact (ne_of_textOf (apart rfl) hshown).symm
    | _ => exact alike.elim
  | float x =>
    cases b with
    | float y =>
      cases ha
      cases hb
      rw [same_text, apart rfl]
      exact ⟨floatText_inj alike, fun same => same ▸ rfl⟩
    | _ => exact alike.elim
  | bytes x =>
    cases b with
    | text y =>
      obtain ⟨shown, hshown, rfl⟩ := map_eq_ok ha
      cases hb
      simp only [same_text, same_bytes_text, Bool.false_eq_true, iff_false]
      exact ne_of_textOf (apart rfl) hshown
    | bytes y =>
      obtain ⟨shown, hshown, rfl⟩ := map_eq_ok ha
      obtain ⟨shown', hshown', rfl⟩ := map_eq_ok hb
      exact same_textOf_bytes (apart rfl) hshown hshown'
    | _ => exact alike.elim
  | decimal x =>
    cases b with
    | decimal y =>
      cases ha
      cases hb
      rw [same_text, apart.1 rfl]
      exact ⟨Decimal.text_inj, congrArg Decimal.text⟩
    | _ => exact alike.elim
  | date x =>
    cases b with
    | date y =>
      cases ha
      cases hb
      rw [same_text, same_date]
      exact ⟨Date.text_inj, congrArg Date.text⟩
    | _ => exact alike.elim
  | timestamp x =>
    cases b with
    | timestamp y =>
      cases ha
      cases hb
      rw [same_text, same_timestamp]
      exact ⟨Timestamp.text_inj, congrArg Timestamp.text⟩
    | _ => exact alike.elim
  | _ => cases b <;> exact alike.elim

/-- An integer that the format of a floating-point type holds is presented as its own number. -/
theorem exists_toFloating {narrow : Bool} {x : Int} {shown : Value} (held : double.Holds x.natAbs)
    (few : narrow = true → single.Holds x.natAbs) (h : (int x).toFloating narrow = .ok shown) :
    ∃ number, shown = .float number ∧ number.toRat? = some (x : ℚ) := by
  obtain ⟨number, read, value, still⟩ := Binary64.exists_ofInt_of_holds held
  rw [toFloating, read] at h
  cases h
  refine ⟨_, rfl, ?_⟩
  split
  case isTrue narrow => rw [still (few narrow), value]
  case isFalse => exact value

/-- Leaves of a column are the same under a floating-point type exactly if they are the same,
provided that integers are held by its format. -/
theorem same_toFloating {narrow : Bool} (alike : OfOneColumn category a b)
    (held : ∀ x y, a = int x → b = int y →
      (double.Holds x.natAbs ∧ double.Holds y.natAbs) ∧
        (narrow = true → single.Holds x.natAbs ∧ single.Holds y.natAbs))
    (ha : a.toFloating narrow = .ok a') (hb : b.toFloating narrow = .ok b') :
    same a' b' = same a b := by
  cases a with
  | int x =>
    cases b with
    | int y =>
      obtain ⟨⟨hx, hy⟩, few⟩ := held x y rfl rfl
      obtain ⟨number, rfl, value⟩ := exists_toFloating hx (fun h => (few h).1) ha
      obtain ⟨number', rfl, value'⟩ := exists_toFloating hy (fun h => (few h).2) hb
      rw [Bool.eq_iff_iff, same_float value value', same_int]
      exact_mod_cast Iff.rfl
    | _ => exact alike.elim
  | _ =>
    cases ha
    cases b with
    | int => exact alike.elim
    | _ =>
      cases hb
      rfl

/-- A decimal that is presented under a scale is rescaled to its unit. -/
theorem exists_toScale {precision scale : Option Int} {x : Decimal} {shown : Value}
    (h : (decimal x).toScale precision scale = .ok shown) :
    ∃ digits places limit unit result, precision = some digits ∧ scale = some places ∧
      digitLimit digits = .ok limit ∧ unitExponent places = .ok unit ∧
      x.rescale? limit unit = some result ∧ shown = .decimal result := by
  rw [toScale] at h
  obtain ⟨digits, hdigits, h⟩ := bind_eq_ok h
  obtain ⟨limit, hlimit, h⟩ := bind_eq_ok h
  obtain ⟨places, hplaces, h⟩ := bind_eq_ok h
  obtain ⟨unit, hunit, h⟩ := bind_eq_ok h
  obtain ⟨result, hresult, h⟩ := bind_eq_ok h
  cases h
  exact ⟨digits, places, limit, unit, result, eq_some_of_ofOption hdigits,
    eq_some_of_ofOption hplaces, hlimit, hunit, eq_some_of_ofOption hresult, rfl⟩

/-- Leaves of a column are the same under a decimal type exactly if they are the same, provided that
decimals are whole numbers of its units. -/
theorem same_toScale {precision scale : Option Int} (alike : OfOneColumn category a b)
    (apart : KeptApart policy (.decimal precision scale) a b)
    (ha : a.toScale precision scale = .ok a') (hb : b.toScale precision scale = .ok b') :
    same a' b' = same a b := by
  cases a with
  | decimal x =>
    cases b with
    | decimal y =>
      obtain ⟨digits, places, limit, unit, shown, rfl, rfl, hlimit, hunit, done, rfl⟩ :=
        exists_toScale ha
      obtain ⟨_, _, limit', unit', shown', same, same', hlimit', hunit', done', rfl⟩ :=
        exists_toScale hb
      cases same
      cases same'
      cases hlimit.symm.trans hlimit'
      cases hunit.symm.trans hunit'
      obtain ⟨whole, whole'⟩ := apart.2 _ _ _ rfl hunit
      rw [same_decimal, same_decimal]
      exact Decimal.sameNumber_rescale? whole whole' done done'
    | _ => exact alike.elim
  | _ =>
    cases ha
    cases b with
    | decimal => exact alike.elim
    | _ =>
      cases hb
      rfl

/-- Leaves of a column are the same as moments exactly if they are the same. -/
theorem same_toTimestamp (alike : OfOneColumn category a b) :
    same a.toTimestamp b.toTimestamp = same a b := by
  cases a with
  | date x =>
    cases b with
    | date y =>
      rw [Bool.eq_iff_iff, same_date]
      exact same_timestamp.trans ⟨Timestamp.midnight_inj, congrArg Timestamp.midnight⟩
    | _ => exact alike.elim
  | _ =>
    cases b with
    | date => exact alike.elim
    | _ => rfl

/-- Leaves of a column that a type keeps apart are the same under it exactly if they are the
same. -/
theorem same_underLeaf (alike : OfOneColumn category a b) (apart : KeptApart policy type a b)
    (ha : a.underLeaf policy category type = .ok a')
    (hb : b.underLeaf policy category type = .ok b') : same a' b' = same a b := by
  rw [underLeaf.eq_def] at ha hb
  split at ha
  case isTrue timed =>
    rw [if_pos timed] at hb
    cases a with
    | timestamp x =>
      cases b with
      | timestamp y =>
        cases ha
        cases hb
        rw [Bool.eq_iff_iff, same_time, same_timestamp]
        exact ⟨apart timed, congrArg Timestamp.time⟩
      | _ => exact alike.elim
    | _ =>
      cases ha
      cases b with
      | timestamp => exact alike.elim
      | _ =>
        cases hb
        rfl
  case isFalse untimed =>
    rw [if_neg untimed] at hb
    cases type with
    | decimal precision scale => exact same_toScale alike apart ha hb
    | array | map | row =>
      cases ha
      cases hb
      rfl
    | basic tag =>
      cases tag with
      | string => exact same_underText alike apart ha hb
      | float =>
        refine same_toFloating alike ?_ ha hb
        rintro x y rfl rfl
        obtain ⟨few, few'⟩ := apart.1 rfl
        exact ⟨⟨Binary64.holds_double few, Binary64.holds_double few'⟩, fun _ => ⟨few, few'⟩⟩
      | double =>
        refine same_toFloating alike ?_ ha hb
        rintro x y rfl rfl
        exact ⟨apart.2 rfl, fun narrow => absurd narrow Bool.false_ne_true⟩
      | timestamp =>
        cases ha
        cases hb
        exact same_toTimestamp alike
      | _ =>
        cases ha
        cases hb
        rfl

end Value

end OrcRows
