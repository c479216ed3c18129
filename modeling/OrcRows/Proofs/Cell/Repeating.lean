import OrcRows.Proofs.Cell.Copies

/-!
# Vectors that repeat their first row

The first row of a repeating vector stands for all of them. Leaves, lists, maps and unions look up
what they need at the first row; a struct hands the row on to its fields, so that a repeating struct
repeats only if its fields do. Both ways of writing down a repeated cell, one row for all and one
copy in every row, are compared through `ColumnVector.IsCopyOf`.
-/

namespace OrcRows

open Outcome

namespace ColumnVector

mutual

/-- A vector that repeats its first row all the way down: it is repeating, and if it is a struct
that is there, so are its fields. -/
def IsSteady (vector : ColumnVector) : Prop :=
  vector.flags.isRepeating = true ∧
  match vector with
  | struct flags fields => flags.nullAt 0 = .ok false → AllSteady fields
  | _ => True

/-- All of some vectors repeat their first row all the way down. -/
def AllSteady (vectors : List ColumnVector) : Prop :=
  match vectors with
  | [] => True
  | vector :: vectors => vector.IsSteady ∧ AllSteady vectors

end

/-- The place of a row of a repeating vector is the first one. -/
theorem index_of_isRepeating {flags : RowFlags} (h : flags.isRepeating = true) (row : Int) :
    flags.index row = 0 := by
  simp [RowFlags.index, h]

mutual

/-- Any two rows of a vector that repeats all the way down are copies of each other. -/
theorem IsSteady.isCopyOf (vector : ColumnVector) (h : vector.IsSteady) (row row' : Int) :
    vector.IsCopyOf row vector row' := by
  rw [IsSteady.eq_def] at h
  obtain ⟨repeating, h⟩ := h
  rw [IsCopyOf.eq_def]
  refine ⟨RowFlags.nullAt_of_isRepeating repeating row row', fun there => ?_⟩
  cases vector with
  | leaf flags cells =>
    have repeating : flags.isRepeating = true := repeating
    simp only [index_of_isRepeating repeating]
    exact cells.sameAt_self 0
  | list flags offsets lengths child =>
    have repeating : flags.isRepeating = true := repeating
    simp only [slice, index_of_isRepeating repeating, and_self]
  | map flags offsets lengths keys values =>
    have repeating : flags.isRepeating = true := repeating
    simp only [slice, index_of_isRepeating repeating, and_self]
  | struct flags fields =>
    have first : flags.nullAt 0 = .ok false :=
      (RowFlags.nullAt_of_isRepeating repeating 0 row).trans there
    exact AllSteady.areCopiesOf fields (h first) row row'
  | union flags tags branches offsets =>
    have repeating : flags.isRepeating = true := repeating
    simp only [branchRow, index_of_isRepeating repeating, and_self]
  | untyped flags => exact trivial

/-- Any two rows of fields that repeat all the way down are copies of each other. -/
theorem AllSteady.areCopiesOf (fields : List ColumnVector) (h : AllSteady fields) (row row' : Int) :
    AreCopiesOf fields row fields row' := by
  match fields with
  | [] => exact trivial
  | field :: fields =>
    exact ⟨IsSteady.isCopyOf field h.1 row row', AllSteady.areCopiesOf fields h.2 row row'⟩

end

end ColumnVector

/-- The first entry in every row, if there is one. -/
def firstInAll {α : Type} (rows : Nat) : List α → List α
  | [] => []
  | entry :: _ => List.replicate rows entry

/-- Every row of the copies holds the first entry. -/
theorem get?_firstInAll {α : Type} {rows row : Nat} (h : row < rows) (entries : List α) :
    Position.get? (firstInAll rows entries) row = Position.get? entries 0 := by
  cases entries with
  | nil => simp [firstInAll]
  | cons entry rest =>
    have first : Position.get? (entry :: rest) 0 = some entry := rfl
    rw [first, firstInAll, Position.get?_ofNat, List.getElem?_replicate, if_pos h]

/-- Flags that hold for every row what holds for the first one. -/
def RowFlags.expand (rows : Nat) (flags : RowFlags) : RowFlags :=
  ⟨firstInAll rows flags.isNull, flags.noNulls, false⟩

/-- Leaf storage with the first entry in every row. -/
def LeafCells.expand (rows : Nat) : LeafCells → LeafCells
  | long values => long (firstInAll rows values)
  | double values => double (firstInAll rows values)
  | bytes values => bytes (firstInAll rows values)
  | decimal values => decimal (firstInAll rows values)
  | timestamp millis nanos => timestamp (firstInAll rows millis) (firstInAll rows nanos)

namespace ColumnVector

mutual

/-- The plain vector that has the cell of the first row in every one of so many rows. -/
def expand (rows : Nat) (vector : ColumnVector) : ColumnVector :=
  match vector with
  | leaf flags cells => leaf (flags.expand rows) (cells.expand rows)
  | list flags offsets lengths child =>
    list (flags.expand rows) (firstInAll rows offsets) (firstInAll rows lengths) child
  | map flags offsets lengths keys values =>
    map (flags.expand rows) (firstInAll rows offsets) (firstInAll rows lengths) keys values
  | struct flags fields => struct (flags.expand rows) (expandAll rows fields)
  | union flags tags branches none =>
    union (flags.expand rows) (firstInAll rows tags) branches (some (List.replicate rows 0))
  | union flags tags branches (some offsets) =>
    union (flags.expand rows) (firstInAll rows tags) branches (some (firstInAll rows offsets))
  | untyped flags => untyped (flags.expand rows)

/-- The plain vectors of several vectors. -/
def expandAll (rows : Nat) (vectors : List ColumnVector) : List ColumnVector :=
  match vectors with
  | [] => []
  | vector :: vectors => vector.expand rows :: expandAll rows vectors

end

/-- The flags of a plain vector are those of the first row. -/
theorem flags_expand (rows : Nat) (vector : ColumnVector) :
    (vector.expand rows).flags = vector.flags.expand rows := by
  cases vector with
  | union flags tags branches offsets => cases offsets <;> rfl
  | _ => rfl

end ColumnVector

/-- The first row is at the first place, repeating or not. -/
theorem RowFlags.index_first (flags : RowFlags) : flags.index 0 = 0 := by
  simp [index]

section Expanding

variable {rows row : Nat} (h : row < rows)

include h

/-- Every row of expanded flags is null if the first row is. -/
theorem RowFlags.nullAt_expand (flags : RowFlags) :
    (flags.expand rows).nullAt row = flags.nullAt 0 := by
  have plain : (flags.expand rows).index row = row := rfl
  have nulls : (flags.expand rows).isNull = firstInAll rows flags.isNull := rfl
  have total : (flags.expand rows).noNulls = flags.noNulls := rfl
  rw [nullAt, nullAt, flags.index_first, plain, nulls, total, get?_firstInAll h]

/-- Every place of expanded storage has the entry of the first place. -/
theorem LeafCells.sameAt_expand (cells : LeafCells) :
    SameAt row 0 (cells.expand rows) cells := by
  cases cells with
  | timestamp millis nanos => exact ⟨get?_firstInAll h millis, get?_firstInAll h nanos⟩
  | _ => exact get?_firstInAll h _

/-- Every row of expanded slices is the slice of the first row. -/
theorem slice_expand (flags : RowFlags) (offsets lengths : List Int) :
    slice (flags.expand rows) (firstInAll rows offsets) (firstInAll rows lengths) row =
      slice flags offsets lengths 0 := by
  have plain : (flags.expand rows).index row = row := rfl
  simp only [slice, plain, flags.index_first, get?_firstInAll h]

end Expanding

namespace ColumnVector

mutual

/-- Every row of the plain vector is a copy of the first row. -/
theorem isCopyOf_expand {rows row : Nat} (h : row < rows) (vector : ColumnVector) :
    (vector.expand rows).IsCopyOf row vector 0 := by
  have hnull : (vector.expand rows).flags.nullAt row = vector.flags.nullAt 0 := by
    rw [flags_expand, RowFlags.nullAt_expand h]
  rw [IsCopyOf.eq_def]
  refine ⟨hnull, fun there => ?_⟩
  cases vector with
  | leaf flags cells =>
    simp only [expand, flags.index_first]
    exact cells.sameAt_expand h
  | list flags offsets lengths child => exact ⟨slice_expand h flags offsets lengths, rfl⟩
  | map flags offsets lengths keys values =>
    exact ⟨slice_expand h flags offsets lengths, rfl, rfl⟩
  | struct flags fields => exact areCopiesOf_expandAll h fields
  | union flags tags branches offsets =>
    have plain : (flags.expand rows).index row = row := rfl
    cases offsets with
    | none =>
      have target : (List.replicate rows (0 : Int))[row]? = some 0 := by simp [h]
      simp only [expand, branchRow, plain, flags.index_first, get?_firstInAll h,
        Position.get?_ofNat, target, ofOption_some, and_self]
    | some offsets =>
      simp only [expand, branchRow, plain, flags.index_first, get?_firstInAll h, and_self]
  | untyped flags => exact trivial

/-- Every row of the plain vectors is a copy of the first row. -/
theorem areCopiesOf_expandAll {rows row : Nat} (h : row < rows) (vectors : List ColumnVector) :
    AreCopiesOf (expandAll rows vectors) row vectors 0 := by
  match vectors with
  | [] => exact trivial
  | vector :: vectors => exact ⟨isCopyOf_expand h vector, areCopiesOf_expandAll h vectors⟩

end

end ColumnVector

/-- Every row of a vector that repeats all the way down is like its first row, and like every row of
the plain vector that has a copy of the first row in each. -/
theorem cell_of_isSteady {policy : TextPolicy} {vector : ColumnVector} {declared : NativeType}
    {unified : Option UnifiedType} (steady : vector.IsSteady) :
    (∀ row, (vector.cell policy declared unified row).Alike
      (vector.cell policy declared unified 0)) ∧
    ∀ rows, (vector.expand rows).flags.isRepeating = false ∧
      ∀ (row : Int) (copy : Nat), copy < rows →
        (vector.cell policy declared unified row).Alike
          ((vector.expand rows).cell policy declared unified copy) := by
  have first : ∀ row, (vector.cell policy declared unified row).Alike
      (vector.cell policy declared unified 0) := by
    intro row
    have same : vector.IsCopyOf row vector 0 := ColumnVector.IsSteady.isCopyOf vector steady row 0
    exact ColumnVector.IsCopyOf.alike_cell vector same declared unified
  refine ⟨first, fun rows => ⟨?_, ?_⟩⟩
  · rw [ColumnVector.flags_expand]
    rfl
  · intro row copy inside
    have copied : (vector.expand rows).IsCopyOf copy vector 0 :=
      ColumnVector.isCopyOf_expand inside vector
    have plain : ((vector.expand rows).cell policy declared unified copy).Alike
        (vector.cell policy declared unified 0) :=
      ColumnVector.IsCopyOf.alike_cell _ copied declared unified
    exact (first row).trans plain.symm

/-- A repeated record of a name and of marks, of which only the first row is stored. -/
def pupilVector : ColumnVector :=
  let flags : RowFlags := ⟨[], true, true⟩
  .struct flags [.leaf flags (.bytes [[97]]),
    .list flags [1] [2] (some (.leaf ⟨[], true, false⟩ (.long [3, 1, 2])))]

/-- The declared type of the record. -/
def pupilType : NativeType :=
  .struct [("name", .primitive .string), ("marks", .list (.primitive .int))]

/-- The record is the same in every row. -/
theorem cell_of_isSteady_pupil :
    pupilVector.IsSteady ∧
      (∀ row, (pupilVector.cell .standard pupilType none row).Alike
        (pupilVector.cell .standard pupilType none 0)) ∧
      ∀ rows, (pupilVector.expand rows).flags.isRepeating = false ∧
        ∀ (row : Int) (copy : Nat), copy < rows →
          (pupilVector.cell .standard pupilType none row).Alike
            ((pupilVector.expand rows).cell .standard pupilType none copy) := by
  have steady : pupilVector.IsSteady :=
    ⟨rfl, fun _ => ⟨⟨rfl, trivial⟩, ⟨rfl, trivial⟩, trivial⟩⟩
  exact ⟨steady, cell_of_isSteady steady⟩

/-- A repeating struct whose field does not repeat. -/
def counterVector : ColumnVector :=
  .struct ⟨[], true, true⟩ [.leaf ⟨[], true, false⟩ (.long [7, 8])]

/-- The second row of a repeating struct is not the first one if the field does not repeat. -/
theorem repeating_struct_differs :
    counterVector.flags.isRepeating = true ∧
      counterVector.cell .standard (.struct [("count", .primitive .bigint)]) none 0 =
        .ok (.row [.int 7] none) ∧
      counterVector.cell .standard (.struct [("count", .primitive .bigint)]) none 1 =
        .ok (.row [.int 8] none) ∧
      ¬ (counterVector.cell .standard (.struct [("count", .primitive .bigint)]) none 1).Alike
        (counterVector.cell .standard (.struct [("count", .primitive .bigint)]) none 0) := by
  have first : counterVector.cell .standard (.struct [("count", .primitive .bigint)]) none 0 =
    .ok (.row [.int 7] none) := rfl
  have second : counterVector.cell .standard (.struct [("count", .primitive .bigint)]) none 1 =
    .ok (.row [.int 8] none) := rfl
  refine ⟨rfl, first, second, ?_⟩
  rw [first, second]
  intro alike
  have same : Value.row [.int 8] none = .row [.int 7] none := alike
  simp at same

end OrcRows
