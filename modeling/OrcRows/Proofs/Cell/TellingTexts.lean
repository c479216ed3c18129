import OrcRows.Proofs.CalendarText
import OrcRows.Proofs.Cell.Matching
import OrcRows.Proofs.Cell.PresentedLeaves
import OrcRows.Proofs.Cell.ReadCells
import OrcRows.Proofs.Number.DistinctTexts

/-!
# Texts that tell the cells of a column apart

Truth values, integers, dates, moments and decimals can be read back from their texts, however many
digits they have. Two cells of one such category therefore have one text only if they are one value;
for decimals even the digits are told, so that numbers that differ have texts that differ.
-/

namespace OrcRows

open Outcome

/-- Categories whose values are told by their texts. -/
def Category.hasTellingText : Category → Bool
  | boolean | tinyint | smallint | int | bigint | date | timestamp | decimal => true
  | _ => false

/-- The values of a category that are told by their texts. -/
inductive Category.Tells : Category → Value → Prop
  | bool (value : Bool) : Tells .boolean (.bool value)
  | tinyint (value : Int) : Tells .tinyint (.int value)
  | smallint (value : Int) : Tells .smallint (.int value)
  | int (value : Int) : Tells .int (.int value)
  | bigint (value : Int) : Tells .bigint (.int value)
  | date (value : Date) : Tells .date (.date value)
  | timestamp (value : Timestamp) : Tells .timestamp (.timestamp value)
  | decimal (value : Decimal) : Tells .decimal (.decimal value)

section Texts

variable {category : Category} {encoding : Encoding} {value value' : Value}

/-- What is told by its text is there. -/
theorem Category.Tells.ne_null (h : category.Tells value) : value ≠ .null := by
  cases h <;> simp

/-- What is told by its text has one. -/
theorem Category.Tells.exists_toText (h : category.Tells value) (encoding : Encoding) :
    ∃ text, value.toText encoding = .ok (.text text) := by
  cases h <;> exact ⟨_, rfl⟩

/-- What is told by its text is presented as that text under the type of text. -/
theorem Category.Tells.underLeaf_text {policy : TextPolicy} (h : category.Tells value) :
    value.underLeaf policy category (.basic .string) = value.toText policy.encoding := by
  cases h <;> rfl

/-- The words for the two truth values differ. -/
theorem boolText_inj {first second : Bool}
    (same : (if first then "true" else "false") = if second then "true" else "false") :
    first = second := by
  cases first <;> cases second <;> simp_all

/-- Values of a category with one text are one value. -/
theorem Category.Tells.toText_inj (h : category.Tells value) (h' : category.Tells value')
    (same : value.toText encoding = value'.toText encoding) : value = value' := by
  cases h with
  | bool first =>
    cases h' with
    | bool second =>
      have texts := Value.text.inj (Except.ok.inj same)
      exact congrArg Value.bool (boolText_inj texts)
  | tinyint first | smallint first | int first | bigint first =>
    cases h'
    have texts := Value.text.inj (Except.ok.inj same)
    exact congrArg Value.int (Decimal.toString_inj texts)
  | date first =>
    cases h' with
    | date second =>
      have texts := Value.text.inj (Except.ok.inj same)
      exact congrArg Value.date (Date.text_inj texts)
  | timestamp first =>
    cases h' with
    | timestamp second =>
      have texts := Value.text.inj (Except.ok.inj same)
      exact congrArg Value.timestamp (Timestamp.text_inj texts)
  | decimal first =>
    cases h' with
    | decimal second =>
      have texts := Value.text.inj (Except.ok.inj same)
      exact congrArg Value.decimal (Decimal.text_inj texts)

end Texts

section Cells

variable {policy : TextPolicy} {category : Category} {value : Value}

/-- An integer cell of a category that is told by texts holds a value of the category. -/
theorem tells_longValue {stored : Int} (told : category.hasTellingText = true)
    (kind : category.isWhole = true) (read : longValue category stored = .ok value) :
    category.Tells value := by
  cases category with
  | boolean | tinyint | smallint | int | bigint =>
    cases read
    constructor
  | date =>
    rw [longValue] at read
    split at read
    · cases read
      exact .date _
    · cases read
  | _ => contradiction

/-- A moment of a category that is told by texts is a value of the category. -/
theorem tells_timestampValue {millis nanos : Int} (kind : category.isMoment = true)
    (read : timestampValue category none millis nanos = .ok value) : category.Tells value := by
  rw [timestampValue] at read
  split at read
  · cases read
  · cases category with
    | date =>
      cases read
      exact .date _
    | timestamp =>
      cases read
      exact .timestamp _
    | _ => contradiction

/-- Leaf storage of a category that is told by texts holds values of the category. -/
theorem LeafCells.IsKindOf.tells_value {cells : LeafCells} {place : Int}
    (told : category.hasTellingText = true) (kind : cells.IsKindOf category)
    (read : cells.value policy category none place = .ok value) : category.Tells value := by
  cases cells with
  | long values =>
    obtain ⟨_, _, read⟩ := bind_eq_ok read
    exact tells_longValue told kind read
  | double values => cases category <;> contradiction
  | bytes values => cases category <;> contradiction
  | decimal values =>
    obtain ⟨_, _, read⟩ := bind_eq_ok read
    obtain ⟨found, _, read⟩ := bind_eq_ok read
    have decimals : category = .decimal := kind
    cases read
    rw [decimals]
    exact .decimal found
  | timestamp millis nanos =>
    obtain ⟨_, _, read⟩ := bind_eq_ok read
    obtain ⟨_, _, read⟩ := bind_eq_ok read
    exact tells_timestampValue kind read

/-- A cell of a category that is told by texts is missing with and without the type of text, or it
is a value of the category and its text. -/
theorem ColumnVector.Matches.cell_told {vector : ColumnVector} {declared : NativeType} {row : Int}
    (h : vector.Matches LeafCells.IsKindOf declared)
    (told : declared.category.hasTellingText = true)
    (read : vector.cell policy declared none row = .ok value) :
    (value = .null ∧ vector.cell policy declared (some (.basic .string)) row = .ok .null) ∨
      (declared.category.Tells value ∧
        vector.cell policy declared (some (.basic .string)) row =
          value.toText policy.encoding) := by
  obtain ⟨flags, cells, rfl, kind⟩ : ∃ flags cells, vector = .leaf flags cells ∧
      cells.IsKindOf declared.category := by
    cases vector with
    | leaf flags cells => exact ⟨flags, cells, rfl, matches_leaf.mp h⟩
    | list =>
      obtain ⟨_, _, _, _, _, _, rfl, _⟩ := exists_of_matches_list h
      contradiction
    | map =>
      obtain ⟨_, _, _, _, _, _, _, _, _, rfl, _⟩ := exists_of_matches_map h
      contradiction
    | struct =>
      obtain ⟨_, _, _, _, rfl, _⟩ := exists_of_matches_struct h
      contradiction
    | union =>
      obtain ⟨_, _, _, _, rfl⟩ := exists_of_matches_union h
      contradiction
    | untyped => exact h.elim
  obtain ⟨null, rfl⟩ | ⟨there, _⟩ := cell_eq_ok read
  · exact .inl ⟨rfl, cell_null null⟩
  · rw [cell_leaf there] at read ⊢
    obtain ⟨found, hfound, hv⟩ := bind_eq_ok read
    cases hv
    have tells := kind.tells_value told hfound
    refine .inr ⟨tells, ?_⟩
    rw [leafCell, (LeafCells.isWalked hfound).1, tells.underLeaf_text]

end Cells

namespace ColumnVector

/-- The texts of two cells of a category are the same text exactly if the cells are the same value.
Every cell that is there has a text. -/
theorem cell_texts_tell {policy : TextPolicy} {vector vector' : ColumnVector}
    {declared declared' : NativeType} {row row' : Int} {value value' : Value}
    (told : declared.category.hasTellingText = true)
    (category : declared'.category = declared.category)
    (h : vector.Matches LeafCells.IsKindOf declared)
    (h' : vector'.Matches LeafCells.IsKindOf declared')
    (read : vector.cell policy declared none row = .ok value)
    (read' : vector'.cell policy declared' none row' = .ok value') :
    ∃ shown shown',
      vector.cell policy declared (some (.basic .string)) row = .ok shown ∧
      vector'.cell policy declared' (some (.basic .string)) row' = .ok shown' ∧
      (value ≠ .null → ∃ text, shown = .text text) ∧
      (value' ≠ .null → ∃ text, shown' = .text text) ∧
      (shown = shown' ↔ value = value') := by
  have told' : declared'.category.hasTellingText = true := category ▸ told
  obtain ⟨rfl, hshown⟩ | ⟨tells, hshown⟩ := h.cell_told told read
  · obtain ⟨rfl, hshown'⟩ | ⟨tells', hshown'⟩ := h'.cell_told told' read'
    · exact ⟨_, _, hshown, hshown', by simp, by simp, by simp⟩
    · obtain ⟨text, htext⟩ := tells'.exists_toText policy.encoding
      exact ⟨_, _, hshown, hshown'.trans htext, by simp, fun _ => ⟨text, rfl⟩, by simp,
        fun same => absurd same.symm tells'.ne_null⟩
  · obtain ⟨text, htext⟩ := tells.exists_toText policy.encoding
    obtain ⟨rfl, hshown'⟩ | ⟨tells', hshown'⟩ := h'.cell_told told' read'
    · exact ⟨_, _, hshown.trans htext, hshown', fun _ => ⟨text, rfl⟩, by simp, by simp,
        fun same => absurd same tells.ne_null⟩
    · obtain ⟨text', htext'⟩ := tells'.exists_toText policy.encoding
      refine ⟨_, _, hshown.trans htext, hshown'.trans htext', fun _ => ⟨text, rfl⟩,
        fun _ => ⟨text', rfl⟩, ?_, ?_⟩
      · intro same
        have texts := htext.trans ((congrArg Except.ok same).trans htext'.symm)
        exact tells.toText_inj (category ▸ tells') texts
      · rintro rfl
        exact Except.ok.inj (htext.symm.trans htext')

/-- Two doses of the same digits, the first in plain notation and the second with an exponent. -/
def dosesVector : ColumnVector :=
  .leaf ⟨[false, false], true, false⟩
    (.decimal [.decimal (.finite false 12345 (-8)), .decimal (.finite false 12345 (-12))])

/-- The two doses have different texts. -/
theorem cell_texts_tell_doses :
    (NativeType.decimal (some 20) (some 12)).category.hasTellingText = true ∧
      dosesVector.Matches LeafCells.IsKindOf (.decimal (some 20) (some 12)) ∧
      dosesVector.cell .standard (.decimal (some 20) (some 12)) none 0 =
        .ok (.decimal (.finite false 12345 (-8))) ∧
      dosesVector.cell .standard (.decimal (some 20) (some 12)) none 1 =
        .ok (.decimal (.finite false 12345 (-12))) ∧
      ∃ text text' : String,
        dosesVector.cell .standard (.decimal (some 20) (some 12)) (some (.basic .string)) 0 =
          .ok (.text text) ∧
        dosesVector.cell .standard (.decimal (some 20) (some 12)) (some (.basic .string)) 1 =
          .ok (.text text') ∧
        text ≠ text' := by
  have matching : dosesVector.Matches LeafCells.IsKindOf (.decimal (some 20) (some 12)) :=
    matches_leaf.mpr rfl
  have read : dosesVector.cell .standard (.decimal (some 20) (some 12)) none 0 =
      .ok (.decimal (.finite false 12345 (-8))) := rfl
  have read' : dosesVector.cell .standard (.decimal (some 20) (some 12)) none 1 =
      .ok (.decimal (.finite false 12345 (-12))) := rfl
  obtain ⟨_, _, shown, shown', some, some', tell⟩ :=
    cell_texts_tell rfl rfl matching matching read read'
  obtain ⟨text, rfl⟩ := some (by simp)
  obtain ⟨text', rfl⟩ := some' (by simp)
  refine ⟨rfl, matching, read, read', text, text', shown, shown', ?_⟩
  rintro rfl
  exact absurd (tell.mp rfl) (by simp)

end ColumnVector

end OrcRows
