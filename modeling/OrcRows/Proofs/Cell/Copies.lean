import OrcRows.Proofs.Cell.Steps

/-!
# Rows that are copies of each other

A row of a vector is a copy of a row of another one if storage has the same entries at both, down to
the fields of structs. Reading looks at nothing else than these entries, so that copies are read
alike; only the row that a report mentions may differ.
-/

namespace OrcRows

open Outcome

namespace LeafCells

/-- Two places of leaf storage of one kind have the same entry, or none. -/
def SameAt (place place' : Int) : LeafCells → LeafCells → Prop
  | long values, long values' => Position.get? values place = Position.get? values' place'
  | double values, double values' => Position.get? values place = Position.get? values' place'
  | bytes values, bytes values' => Position.get? values place = Position.get? values' place'
  | decimal values, decimal values' => Position.get? values place = Position.get? values' place'
  | timestamp millis nanos, timestamp millis' nanos' =>
    Position.get? millis place = Position.get? millis' place' ∧
      Position.get? nanos place = Position.get? nanos' place'
  | _, _ => False

/-- A place has the same entry as itself. -/
theorem sameAt_self (place : Int) (cells : LeafCells) : cells.SameAt place place cells := by
  cases cells with
  | timestamp millis nanos => exact ⟨rfl, rfl⟩
  | _ => exact rfl

/-- The same entry has the same value. -/
theorem SameAt.value_eq {cells cells' : LeafCells} {place place' : Int}
    (h : SameAt place place' cells cells') (policy : TextPolicy) (category : Category)
    (unified : Option UnifiedType) :
    cells.value policy category unified place = cells'.value policy category unified place' := by
  cases cells with
  | long values =>
    cases cells' with
    | long values' =>
      have same : Position.get? values place = Position.get? values' place' := h
      simp only [value, same]
    | _ => exact h.elim
  | double values =>
    cases cells' with
    | double values' =>
      have same : Position.get? values place = Position.get? values' place' := h
      simp only [value, same]
    | _ => exact h.elim
  | bytes values =>
    cases cells' with
    | bytes values' =>
      have same : Position.get? values place = Position.get? values' place' := h
      simp only [value, same]
    | _ => exact h.elim
  | decimal values =>
    cases cells' with
    | decimal values' =>
      have same : Position.get? values place = Position.get? values' place' := h
      simp only [value, same]
    | _ => exact h.elim
  | timestamp millis nanos =>
    cases cells' with
    | timestamp millis' nanos' =>
      have sameMilli : Position.get? millis place = Position.get? millis' place' := h.1
      have sameNano : Position.get? nanos place = Position.get? nanos' place' := h.2
      simp only [value, sameMilli, sameNano]
    | _ => exact h.elim

end LeafCells

namespace ColumnVector

mutual

/-- A row of a vector is a copy of a row of another vector: both are missing, or storage has the
same entries at either row, child vectors are the same, and fields are copies in turn. -/
def IsCopyOf (vector : ColumnVector) (row : Int) (original : ColumnVector) (row' : Int) : Prop :=
  vector.flags.nullAt row = original.flags.nullAt row' ∧
  (vector.flags.nullAt row = .ok false →
    match vector, original with
    | leaf flags cells, leaf flags' cells' =>
      cells.SameAt (flags.index row) (flags'.index row') cells'
    | list flags offsets lengths child, list flags' offsets' lengths' child' =>
      slice flags offsets lengths row = slice flags' offsets' lengths' row' ∧ child = child'
    | map flags offsets lengths keys values, map flags' offsets' lengths' keys' values' =>
      slice flags offsets lengths row = slice flags' offsets' lengths' row' ∧ keys = keys' ∧
        values = values'
    | struct _ fields, struct _ fields' => AreCopiesOf fields row fields' row'
    | union flags tags branches offsets, union flags' tags' branches' offsets' =>
      Position.get? tags (flags.index row) = Position.get? tags' (flags'.index row') ∧
        branchRow flags offsets row = branchRow flags' offsets' row' ∧ branches = branches'
    | untyped _, untyped _ => True
    | _, _ => False)

/-- A row of some vectors is a copy of a row of as many others, vector by vector. -/
def AreCopiesOf (vectors : List ColumnVector) (row : Int) (originals : List ColumnVector)
    (row' : Int) : Prop :=
  match vectors, originals with
  | [], [] => True
  | vector :: vectors, original :: originals =>
    vector.IsCopyOf row original row' ∧ AreCopiesOf vectors row originals row'
  | _, _ => False

end

variable {policy : TextPolicy} {row row' : Int}

/-- Reports about shapes differ in the row at most. -/
theorem alike_checkShape {vector original : ColumnVector}
    (h : vector.category? = original.category?) (declared : NativeType) :
    (vector.checkShape declared row).Alike (original.checkShape declared row') := by
  rw [checkShape, checkShape, ← h]
  cases vector.category? with
  | none => exact .refl _
  | some expected =>
    simp only
    split
    · exact .refl _
    · exact alike_report ..

/-- The same slice of the same child is the same list. -/
theorem alike_listCell {flags flags' : RowFlags} {offsets lengths offsets' lengths' : List Int}
    {child : Option ColumnVector}
    (h : slice flags offsets lengths row = slice flags' offsets' lengths' row')
    (declared : NativeType) (unified : Option UnifiedType) :
    (listCell policy flags offsets lengths child declared unified row).Alike
      (listCell policy flags' offsets' lengths' child declared unified row') := by
  cases child with
  | none => exact alike_report ..
  | some child =>
    apply alike_of_eq
    simp only [listCell, h]

/-- The same slice of the same keys and values is the same map. -/
theorem mapCell_eq {flags flags' : RowFlags} {offsets lengths offsets' lengths' : List Int}
    {keys values : Option ColumnVector}
    (h : slice flags offsets lengths row = slice flags' offsets' lengths' row')
    (declared : NativeType) (unified : Option UnifiedType) :
    mapCell policy flags offsets lengths keys values declared unified row =
      mapCell policy flags' offsets' lengths' keys values declared unified row' := by
  rw [mapCell.eq_def, mapCell.eq_def, h]

/-- Reports about tags differ in the row at most. -/
theorem alike_branchOf (tag : Int) (declared branches : Nat) :
    (branchOf tag declared branches row).Alike (branchOf tag declared branches row') := by
  rw [branchOf, branchOf]
  split
  · exact alike_report ..
  · split
    · exact alike_report ..
    · exact .refl _

/-- There are as many copies as originals. -/
theorem AreCopiesOf.length_eq {vectors originals : List ColumnVector}
    (h : AreCopiesOf vectors row originals row') : vectors.length = originals.length := by
  induction vectors generalizing originals with
  | nil =>
    cases originals with
    | nil => rfl
    | cons original originals => exact h.elim
  | cons vector vectors ih =>
    cases originals with
    | nil => exact h.elim
    | cons original originals => rw [List.length_cons, List.length_cons, ih h.2]

mutual

/-- The cell of a copy is like the cell of its original. -/
theorem IsCopyOf.alike_cell (vector : ColumnVector) {original : ColumnVector}
    (h : vector.IsCopyOf row original row') (declared : NativeType)
    (unified : Option UnifiedType) :
    (vector.cell policy declared unified row).Alike
      (original.cell policy declared unified row') := by
  rw [IsCopyOf.eq_def] at h
  obtain ⟨hnull, h⟩ := h
  cases hthere : vector.flags.nullAt row with
  | error fault =>
    rw [cell.eq_def, cell.eq_def, ← hnull, hthere]
    exact .refl _
  | ok null =>
    cases null with
    | true =>
      rw [cell_null hthere, cell_null (hnull.symm.trans hthere)]
      exact .refl _
    | false =>
      have hcells := h hthere
      have hcategory : vector.category? = original.category? := by
        cases vector <;> cases original <;> first | rfl | exact hcells.elim
      have hshape : (vector.checkShape declared row).Alike (original.checkShape declared row') :=
        alike_checkShape hcategory declared
      rw [cell.eq_def, cell.eq_def, ← hnull, hthere]
      simp only [ok_bind, Bool.false_eq_true, if_false]
      refine hshape.bind fun _ => ?_
      cases vector with
      | leaf flags cells =>
        cases original with
        | leaf flags' cells' =>
          have hvalue := LeafCells.SameAt.value_eq hcells policy declared.category unified
          apply alike_of_eq
          simp only [leafCell, hvalue]
        | _ => exact hcells.elim
      | list flags offsets lengths child =>
        cases original with
        | list flags' offsets' lengths' child' =>
          obtain ⟨hslice, rfl⟩ := hcells
          exact alike_listCell hslice declared unified
        | _ => exact hcells.elim
      | map flags offsets lengths keys values =>
        cases original with
        | map flags' offsets' lengths' keys' values' =>
          obtain ⟨hslice, rfl, rfl⟩ := hcells
          exact alike_of_eq (mapCell_eq hslice declared unified)
        | _ => exact hcells.elim
      | struct flags fields =>
        cases original with
        | struct flags' fields' =>
          have hlength : fields.length = fields'.length := AreCopiesOf.length_eq hcells
          simp only [hlength]
          split
          · exact alike_report ..
          · exact (AreCopiesOf.alike_fieldCells fields hcells declared.children _).bind
              fun values => .refl _
        | _ => exact hcells.elim
      | union flags tags branches offsets =>
        cases original with
        | union flags' tags' branches' offsets' =>
          obtain ⟨htag, htarget, rfl⟩ := hcells
          simp only [htag, htarget]
          exact (Alike.refl _).bind fun tag => (alike_branchOf tag _ _).bind fun place => .refl _
        | _ => exact hcells.elim
      | untyped flags =>
        cases original with
        | untyped flags' => exact alike_report ..
        | _ => exact hcells.elim

/-- The cells of copies of fields are like the cells of the fields. -/
theorem AreCopiesOf.alike_fieldCells (fields : List ColumnVector) {originals : List ColumnVector}
    (h : AreCopiesOf fields row originals row') (declared : List NativeType)
    (types : List UnifiedType) :
    (fieldCells policy fields declared types row).Alike
      (fieldCells policy originals declared types row') := by
  match fields, originals, declared with
  | [], [], _ =>
    rw [fieldCells.eq_def, fieldCells.eq_def]
    exact .refl _
  | [], _ :: _, _ => exact h.elim
  | _ :: _, [], _ => exact h.elim
  | _ :: _, _ :: _, [] =>
    rw [fieldCells.eq_def, fieldCells.eq_def]
    exact .refl _
  | field :: fields, original :: originals, type :: declared =>
    rw [fieldCells_cons, fieldCells_cons]
    have hfirst := IsCopyOf.alike_cell field h.1 type types.head?
    have hrest := AreCopiesOf.alike_fieldCells fields h.2 declared types.tail
    exact hfirst.bind fun value => hrest.bind fun values => .refl _

end

end ColumnVector

end OrcRows
