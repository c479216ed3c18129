import OrcRows.Proofs.Cell.Copies
import OrcRows.Proofs.Cell.ReadCells

/-!
# What a cell is read from

A cell is read from the null flag of its row, from the entry that is stored there, and from the
child cells that this entry designates: the slice of a list or a map, the same row of every field of
a struct, the selected row of the selected branch of a union. Two vectors of one shape that agree on
all of these have the same cell, value or fault. Nothing is read behind a null flag, and nothing
else makes a cell null.
-/

namespace OrcRows

open Outcome

namespace ColumnVector

section Shapes

mutual

/-- Two vectors are of the same kind and have as many children, which are of one shape in turn. -/
def HasShapeOf (vector other : ColumnVector) : Prop :=
  match vector, other with
  | leaf _ cells, leaf _ cells' => cells.kindName = cells'.kindName
  | list _ _ _ child, list _ _ _ child' => ChildHasShapeOf child child'
  | map _ _ _ keys values, map _ _ _ keys' values' =>
    ChildHasShapeOf keys keys' ∧ ChildHasShapeOf values values'
  | struct _ fields, struct _ fields' => AllHaveShapeOf fields fields'
  | union _ _ branches _, union _ _ branches' _ => AllHaveShapeOf branches branches'
  | untyped _, untyped _ => True
  | _, _ => False

/-- Two children are both missing, or of one shape. -/
def ChildHasShapeOf (child other : Option ColumnVector) : Prop :=
  match child, other with
  | none, none => True
  | some vector, some vector' => vector.HasShapeOf vector'
  | _, _ => False

/-- There are as many vectors as others, of one shape place by place. -/
def AllHaveShapeOf (vectors others : List ColumnVector) : Prop :=
  match vectors, others with
  | [], [] => True
  | vector :: vectors, other :: others => vector.HasShapeOf other ∧ AllHaveShapeOf vectors others
  | _, _ => False

end

variable {vector other : ColumnVector}

/-- Vectors of one shape go with the same category. -/
theorem HasShapeOf.category?_eq (h : vector.HasShapeOf other) :
    vector.category? = other.category? := by
  cases vector <;> cases other <;> first | rfl | exact h.elim

/-- Vectors of one shape are of one kind. -/
theorem HasShapeOf.kindName_eq (h : vector.HasShapeOf other) :
    vector.kindName = other.kindName := by
  cases vector <;> cases other <;> first | rfl | exact h | exact h.elim

/-- Children of one shape are of one kind. -/
theorem ChildHasShapeOf.childKindName_eq {child child' : Option ColumnVector}
    (h : ChildHasShapeOf child child') : childKindName child = childKindName child' := by
  cases child <;> cases child' <;> first | rfl | exact HasShapeOf.kindName_eq h | exact h.elim

/-- Children of one shape are leaves together. -/
theorem ChildHasShapeOf.isLeafChild_iff {child child' : Option ColumnVector}
    (h : ChildHasShapeOf child child') : IsLeafChild child ↔ IsLeafChild child' := by
  cases child with
  | none => cases child' <;> first | rfl | exact h.elim
  | some vector =>
    cases child' with
    | none => exact h.elim
    | some other =>
      have h : vector.HasShapeOf other := h
      cases vector <;> cases other <;> first | rfl | exact h.elim

/-- Sequences of vectors of one shape are equally long. -/
theorem AllHaveShapeOf.length_eq {vectors others : List ColumnVector}
    (h : AllHaveShapeOf vectors others) : vectors.length = others.length := by
  induction vectors generalizing others with
  | nil =>
    cases others with
    | nil => rfl
    | cons other others => exact h.elim
  | cons vector vectors ih =>
    cases others with
    | nil => exact h.elim
    | cons other others => rw [List.length_cons, List.length_cons, ih h.2]

end Shapes

section Agreement

mutual

/-- Two vectors agree at a row: it is null in both or in neither, and if it is not null, both store
the same entry there, and the child cells that the entry designates agree in turn. -/
def AgreesAt (vector other : ColumnVector) (row : Int) : Prop :=
  vector.flags.nullAt row = other.flags.nullAt row ∧
  (vector.flags.nullAt row = .ok false →
    match vector, other with
    | leaf flags cells, leaf flags' cells' =>
      cells.SameAt (flags.index row) (flags'.index row) cells'
    | list flags offsets lengths child, list flags' offsets' lengths' child' =>
      slice flags offsets lengths row = slice flags' offsets' lengths' row ∧
        ∀ offset length place, slice flags offsets lengths row = .ok (offset, length) →
          offset ≤ place → place < offset + length → ChildAgreesAt child child' place
    | map flags offsets lengths keys values, map flags' offsets' lengths' keys' values' =>
      slice flags offsets lengths row = slice flags' offsets' lengths' row ∧
        ∀ offset length place, slice flags offsets lengths row = .ok (offset, length) →
          offset ≤ place → place < offset + length →
            ChildAgreesAt keys keys' place ∧ ChildAgreesAt values values' place
    | struct _ fields, struct _ fields' => AllAgreeAt fields fields' row
    | union flags tags branches offsets, union flags' tags' branches' offsets' =>
      Position.get? tags (flags.index row) = Position.get? tags' (flags'.index row) ∧
        ∀ place : Nat, Position.get? tags (flags.index row) = some (place : Int) →
          place < branches.length →
            branchRow flags offsets row = branchRow flags' offsets' row ∧
              ∀ target, branchRow flags offsets row = .ok target →
                BranchAgreesAt branches branches' place target
    | untyped _, untyped _ => True
    | _, _ => False)

/-- Two children agree at a row, if there are any. -/
def ChildAgreesAt (child other : Option ColumnVector) (row : Int) : Prop :=
  match child, other with
  | some vector, some vector' => vector.AgreesAt vector' row
  | _, _ => True

/-- Vectors agree with others at a row, place by place. -/
def AllAgreeAt (vectors others : List ColumnVector) (row : Int) : Prop :=
  match vectors, others with
  | [], [] => True
  | vector :: vectors, other :: others => vector.AgreesAt other row ∧ AllAgreeAt vectors others row
  | _, _ => False

/-- Two branches, given by their place, agree at a row. -/
def BranchAgreesAt (branches others : List ColumnVector) (place : Nat) (row : Int) : Prop :=
  match branches, others, place with
  | branch :: _, other :: _, 0 => branch.AgreesAt other row
  | _ :: branches, _ :: others, place + 1 => BranchAgreesAt branches others place row
  | _, _, _ => False

end

variable {policy : TextPolicy} {declared : NativeType} {unified : Option UnifiedType}

/-- Children that are there agree like any vectors. -/
@[simp] theorem childAgreesAt_some {vector vector' : ColumnVector} {row : Int} :
    ChildAgreesAt (some vector) (some vector') row ↔ vector.AgreesAt vector' row := by
  rw [ChildAgreesAt.eq_def]

/-- A leaf cell is read from its entry. -/
theorem leafCell_congr {flags flags' : RowFlags} {cells cells' : LeafCells} {row : Int}
    (h : cells.SameAt (flags.index row) (flags'.index row) cells') :
    leafCell policy flags cells declared unified row =
      leafCell policy flags' cells' declared unified row := by
  rw [leafCell, leafCell, h.value_eq]

/-- An element is read from its null flag and its entry. -/
theorem elementCell_congr {flags flags' : RowFlags} {cells cells' : LeafCells} {row : Int}
    (h : (leaf flags cells).AgreesAt (leaf flags' cells') row) :
    elementCell policy flags cells declared unified row =
      elementCell policy flags' cells' declared unified row := by
  rw [AgreesAt.eq_def] at h
  obtain ⟨sameNull, sameEntry⟩ := h
  have sameNull : flags.nullAt row = flags'.nullAt row := sameNull
  rw [elementCell, elementCell, ← sameNull]
  cases hnull : flags.nullAt row with
  | error fault => rfl
  | ok null =>
    cases null with
    | true => rfl
    | false => exact leafCell_congr (sameEntry hnull)

/-- Consecutive rows that are read the same one by one are read the same together. -/
theorem readRows_congr {read read' : Int → Outcome Value} {first : Int} {count : Nat}
    (h : ∀ row, first ≤ row → row < first + count → read row = read' row) :
    readRows read first count = readRows read' first count := by
  induction count generalizing first with
  | zero => rfl
  | succ count ih =>
    have here := h first (by omega) (by omega)
    have later : readRows read (first + 1) count = readRows read' (first + 1) count :=
      ih fun row least most => h row (by omega) (by omega)
    rw [readRows, readRows, here, later]

/-- A slice of a child is read from the cells in it. -/
theorem elements_congr {child child' : ColumnVector} {offset length : Int}
    (shape : child.HasShapeOf child')
    (h : ∀ place, offset ≤ place → place < offset + length → child.AgreesAt child' place)
    (container : String) :
    elements policy container child declared unified (offset, length) =
      elements policy container child' declared unified (offset, length) := by
  have shapes : ChildHasShapeOf (some child) (some child') := shape
  by_cases flat : IsLeafChild (some child)
  · obtain ⟨⟨flags, cells, rfl⟩, flags', cells', rfl⟩ :=
      exists_leaves ⟨flat, shapes.isLeafChild_iff.mp flat⟩
    refine readRows_congr fun place least most => elementCell_congr (h place least ?_)
    dsimp only at least most
    omega
  · have flat' := mt shapes.isLeafChild_iff.mpr flat
    rw [elements_of_not_isLeafChild flat, elements_of_not_isLeafChild flat', shape.kindName_eq]

/-- A list is read from its slice. -/
theorem listCell_congr {flags flags' : RowFlags} {offsets lengths offsets' lengths' : List Int}
    {child child' : Option ColumnVector} {row : Int} (shape : ChildHasShapeOf child child')
    (same : slice flags offsets lengths row = slice flags' offsets' lengths' row)
    (h : ∀ offset length place, slice flags offsets lengths row = .ok (offset, length) →
      offset ≤ place → place < offset + length → ChildAgreesAt child child' place) :
    listCell policy flags offsets lengths child declared unified row =
      listCell policy flags' offsets' lengths' child' declared unified row := by
  cases child with
  | none =>
    cases child' with
    | none => rfl
    | some inner' => exact shape.elim
  | some inner =>
    cases child' with
    | none => exact shape.elim
    | some inner' =>
      rw [listCell, listCell, ← same]
      cases hslice : slice flags offsets lengths row with
      | error fault => rfl
      | ok bounds =>
        obtain ⟨offset, length⟩ := bounds
        have agree : ∀ place, offset ≤ place → place < offset + length →
            inner.AgreesAt inner' place := fun place least most =>
          childAgreesAt_some.mp (h offset length place hslice least most)
        have read : ∀ (element : NativeType) (type : Option UnifiedType),
            elements policy "list" inner element type (offset, length) =
              elements policy "list" inner' element type (offset, length) :=
          fun _ _ => elements_congr shape agree "list"
        simp only [ok_bind, read]

/-- A map is read from its slices of keys and of values. -/
theorem mapCell_congr {flags flags' : RowFlags} {offsets lengths offsets' lengths' : List Int}
    {keys values keys' values' : Option ColumnVector} {row : Int}
    (shapeKeys : ChildHasShapeOf keys keys') (shapeValues : ChildHasShapeOf values values')
    (same : slice flags offsets lengths row = slice flags' offsets' lengths' row)
    (h : ∀ offset length place, slice flags offsets lengths row = .ok (offset, length) →
      offset ≤ place → place < offset + length →
        ChildAgreesAt keys keys' place ∧ ChildAgreesAt values values' place) :
    mapCell policy flags offsets lengths keys values declared unified row =
      mapCell policy flags' offsets' lengths' keys' values' declared unified row := by
  by_cases flat : IsLeafChild keys ∧ IsLeafChild values
  · obtain ⟨keyFlags, keyCells, rfl⟩ := exists_leaf_of_isLeafChild flat.1
    obtain ⟨valueFlags, valueCells, rfl⟩ := exists_leaf_of_isLeafChild flat.2
    obtain ⟨keyFlags', keyCells', rfl⟩ :=
      exists_leaf_of_isLeafChild (shapeKeys.isLeafChild_iff.mp flat.1)
    obtain ⟨valueFlags', valueCells', rfl⟩ :=
      exists_leaf_of_isLeafChild (shapeValues.isLeafChild_iff.mp flat.2)
    rw [mapCell, mapCell, ← same]
    cases hslice : slice flags offsets lengths row with
    | error fault => rfl
    | ok bounds =>
      obtain ⟨offset, length⟩ := bounds
      have agree : ∀ place, offset ≤ place → place < offset + length →
          (leaf keyFlags keyCells).AgreesAt (leaf keyFlags' keyCells') place ∧
            (leaf valueFlags valueCells).AgreesAt (leaf valueFlags' valueCells') place :=
        fun place least most =>
          (h offset length place hslice least most).imp childAgreesAt_some.mp childAgreesAt_some.mp
      have readKeys : ∀ (key : NativeType) (type : Option UnifiedType),
          elements policy "map" (leaf keyFlags keyCells) key type (offset, length) =
            elements policy "map" (leaf keyFlags' keyCells') key type (offset, length) :=
        fun _ _ => elements_congr shapeKeys (fun place least most => (agree place least most).1) _
      have readValues : ∀ (value : NativeType) (type : Option UnifiedType),
          elements policy "map" (leaf valueFlags valueCells) value type (offset, length) =
            elements policy "map" (leaf valueFlags' valueCells') value type (offset, length) :=
        fun _ _ => elements_congr shapeValues (fun place least most => (agree place least most).2) _
      simp only [ok_bind, readKeys, readValues]
  · have flat' : ¬ (IsLeafChild keys' ∧ IsLeafChild values') := fun both =>
      flat ⟨shapeKeys.isLeafChild_iff.mpr both.1, shapeValues.isLeafChild_iff.mpr both.2⟩
    rw [mapCell_of_deep flat, mapCell_of_deep flat', shapeKeys.childKindName_eq,
      shapeValues.childKindName_eq]

/-- Vectors of one shape are checked alike against a declared type. -/
theorem checkShape_congr {vector other : ColumnVector} {row : Int} (h : vector.HasShapeOf other) :
    vector.checkShape declared row = other.checkShape declared row := by
  rw [checkShape, checkShape, h.category?_eq, h.kindName_eq]

mutual

/-- Vectors of one shape that agree at a row have the same cell there. -/
theorem AgreesAt.cell_eq (vector : ColumnVector) {other : ColumnVector} {row : Int}
    (shape : vector.HasShapeOf other) (agree : vector.AgreesAt other row)
    (declared : NativeType) (unified : Option UnifiedType) :
    vector.cell policy declared unified row = other.cell policy declared unified row := by
  rw [AgreesAt.eq_def] at agree
  obtain ⟨sameNull, sameParts⟩ := agree
  cases hnull : vector.flags.nullAt row with
  | error fault =>
    rw [cell.eq_def, cell.eq_def, ← sameNull, hnull]
    rfl
  | ok null =>
    cases null with
    | true => rw [cell_null hnull, cell_null (sameNull.symm.trans hnull)]
    | false =>
      have parts := sameParts hnull
      have checked : vector.checkShape declared row = other.checkShape declared row :=
        checkShape_congr shape
      rw [cell.eq_def, cell.eq_def, ← sameNull, hnull, ← checked]
      simp only [ok_bind, Bool.false_eq_true, if_false]
      congr 1
      funext _
      cases vector with
      | leaf flags cells =>
        cases other with
        | leaf flags' cells' => exact leafCell_congr parts
        | _ => exact shape.elim
      | list flags offsets lengths child =>
        cases other with
        | list flags' offsets' lengths' child' => exact listCell_congr shape parts.1 parts.2
        | _ => exact shape.elim
      | map flags offsets lengths keys values =>
        cases other with
        | map flags' offsets' lengths' keys' values' =>
          exact mapCell_congr shape.1 shape.2 parts.1 parts.2
        | _ => exact shape.elim
      | struct flags fields =>
        cases other with
        | struct flags' fields' =>
          have width : fields.length = fields'.length := AllHaveShapeOf.length_eq shape
          simp only [width, AllAgreeAt.fieldCells_eq fields shape parts]
        | _ => exact shape.elim
      | union flags tags branches offsets =>
        cases other with
        | union flags' tags' branches' offsets' =>
          obtain ⟨sameTag, sameBranch⟩ := parts
          have width : branches.length = branches'.length := AllHaveShapeOf.length_eq shape
          simp only [← sameTag, ← width]
          cases found : Position.get? tags (flags.index row) with
          | none => rfl
          | some tag =>
            rw [ofOption_some, ok_bind, ok_bind]
            -- only a tag that designates a branch makes anything of the branches matter
            cases chosen : branchOf tag declared.children.length branches.length row with
            | error fault => rfl
            | ok place =>
              obtain ⟨tagged, _, inside⟩ := branchOf_eq_ok chosen
              obtain ⟨sameTarget, sameCell⟩ :=
                sameBranch place (found.trans (congrArg some tagged)) inside
              simp only [ok_bind, ← sameTarget]
              cases aimed : branchRow flags offsets row with
              | error fault => rfl
              | ok target =>
                have read : ∀ branch : NativeType,
                    branchCell policy branches place branch target =
                      branchCell policy branches' place branch target :=
                  BranchAgreesAt.branchCell_eq branches shape (sameCell target aimed)
                simp only [ok_bind, read]
        | _ => exact shape.elim
      | untyped flags =>
        cases other with
        | untyped flags' => rfl
        | _ => exact shape.elim

/-- Fields of one shape that agree at a row have the same cells there. -/
theorem AllAgreeAt.fieldCells_eq (fields : List ColumnVector) {others : List ColumnVector}
    {row : Int} (shape : AllHaveShapeOf fields others) (agree : AllAgreeAt fields others row)
    (declared : List NativeType) (types : List UnifiedType) :
    fieldCells policy fields declared types row = fieldCells policy others declared types row := by
  match fields, others, declared with
  | [], [], _ => rfl
  | [], _ :: _, _ => exact shape.elim
  | _ :: _, [], _ => exact shape.elim
  | _ :: _, _ :: _, [] => rw [fieldCells.eq_def, fieldCells.eq_def]
  | field :: fields, other :: others, type :: declared =>
    rw [AllAgreeAt.eq_def] at agree
    rw [fieldCells_cons, fieldCells_cons, AgreesAt.cell_eq field shape.1 agree.1,
      AllAgreeAt.fieldCells_eq fields shape.2 agree.2]

/-- Branches of one shape that agree at a row in one place have the same cell there. -/
theorem BranchAgreesAt.branchCell_eq (branches : List ColumnVector) {others : List ColumnVector}
    {place : Nat} {row : Int} (shape : AllHaveShapeOf branches others)
    (agree : BranchAgreesAt branches others place row) (declared : NativeType) :
    branchCell policy branches place declared row =
      branchCell policy others place declared row := by
  match branches, others, place with
  | [], [], _ => rfl
  | [], _ :: _, _ => exact shape.elim
  | _ :: _, [], _ => exact shape.elim
  | branch :: branches, other :: others, 0 =>
    rw [BranchAgreesAt.eq_def] at agree
    rw [branchCell.eq_def, branchCell.eq_def]
    exact AgreesAt.cell_eq branch shape.1 agree declared none
  | branch :: branches, other :: others, place + 1 =>
    rw [BranchAgreesAt.eq_def] at agree
    rw [branchCell.eq_def, branchCell.eq_def policy (other :: others)]
    exact BranchAgreesAt.branchCell_eq branches shape.2 agree declared

end

end Agreement

end ColumnVector

/-- The null flag at the place of a row is set, and it counts. -/
def RowFlags.Marks (flags : RowFlags) (row : Int) : Prop :=
  flags.noNulls = false ∧ Position.get? flags.isNull (flags.index row) = some true

/-- A row is null if its flag is set and counts. -/
theorem RowFlags.nullAt_eq_true_iff {flags : RowFlags} {row : Int} :
    flags.nullAt row = .ok true ↔ flags.Marks row := by
  rw [nullAt, Marks]
  cases flags.noNulls with
  | true => simp
  | false => cases Position.get? flags.isNull (flags.index row) <;> simp

namespace ColumnVector

variable {policy : TextPolicy} {declared : NativeType} {unified : Option UnifiedType} {row : Int}

/-- A cell that is read is missing exactly if its row is marked. -/
theorem eq_null_iff_marks {vector : ColumnVector} {value : Value}
    (read : vector.cell policy declared unified row = .ok value) :
    value = .null ↔ vector.flags.Marks row := by
  rw [← RowFlags.nullAt_eq_true_iff]
  obtain ⟨marked, rfl⟩ | ⟨unmarked, made⟩ := cell_eq_ok read
  · exact iff_of_true rfl marked
  · exact iff_of_false made.ne_null (by simp [unmarked])

/-- A list that is read comes from a list vector with a leaf below it, whose slice it repeats place
by place; an element is missing exactly if its row of the leaf is marked. -/
theorem exists_slice_of_cell {vector : ColumnVector} {values : List Value}
    (read : vector.cell policy declared unified row = .ok (.list values)) :
    ∃ flags offsets lengths elementFlags cells offset length,
      vector = list flags offsets lengths (some (leaf elementFlags cells)) ∧
      slice flags offsets lengths row = .ok (offset, length) ∧ values.length = length.toNat ∧
      ∀ (place : Nat) (value : Value), values[place]? = some value →
        (value = .null ↔ elementFlags.Marks (offset + place)) := by
  obtain ⟨_, same⟩ | ⟨_, made⟩ := cell_eq_ok read
  · cases same
  obtain ⟨flags, offsets, lengths, child, rfl, inner, element, ⟨offset, length⟩, found, rfl, _,
    hslice, hread, same⟩ := made.exists_list
  cases same
  obtain ⟨elementFlags, cells, rfl, hread⟩ := elements_eq_ok hread
  refine ⟨flags, offsets, lengths, elementFlags, cells, offset, length, rfl, hslice,
    length_readRows hread, fun place value hvalue => ?_⟩
  have here := read_of_readRows hread hvalue
  rw [elementCell_eq_cell] at here
  exact eq_null_iff_marks here

end ColumnVector

/-- What a cell is read from: it is missing exactly if its row is marked, the missing elements of a
list are exactly those marked in the child, and another vector of the same shape that agrees at the
row, in its null flag, its entry and the child cells that this entry designates, has the same
cell or the same fault. -/
theorem cell_reads_designated_only (policy : TextPolicy) (vector : ColumnVector)
    (declared : NativeType) (unified : Option UnifiedType) (row : Int) :
    (∀ value, vector.cell policy declared unified row = .ok value →
      (value = .null ↔ vector.flags.Marks row)) ∧
    (∀ values, vector.cell policy declared unified row = .ok (.list values) →
      ∃ flags offsets lengths elementFlags cells offset length,
        vector = .list flags offsets lengths (some (.leaf elementFlags cells)) ∧
        slice flags offsets lengths row = .ok (offset, length) ∧ values.length = length.toNat ∧
        ∀ (place : Nat) (value : Value), values[place]? = some value →
          (value = .null ↔ elementFlags.Marks (offset + place))) ∧
    (∀ other : ColumnVector, vector.HasShapeOf other → vector.AgreesAt other row →
      vector.cell policy declared unified row = other.cell policy declared unified row) :=
  ⟨fun _ => ColumnVector.eq_null_iff_marks, fun _ => ColumnVector.exists_slice_of_cell,
    fun _ shape agree => ColumnVector.AgreesAt.cell_eq vector shape agree declared unified⟩

/-- Two rows of integers, `[1, missing]` and a missing one, over storage that is filled up with a
number of no meaning. -/
def paddedLists (fill : Int) : ColumnVector :=
  .list ⟨[false, true], false, false⟩ [0, fill] [2, fill]
    (some (.leaf ⟨[false, true, false], false, false⟩ (.long [1, fill, fill])))

/-- Whatever storage is filled up with, the lists agree where they are there. -/
theorem paddedLists_agreesAt (fill other : Int) :
    (paddedLists fill).AgreesAt (paddedLists other) 0 := by
  rw [ColumnVector.AgreesAt.eq_def]
  refine ⟨rfl, fun _ => ⟨rfl, fun offset length place sliced least most => ?_⟩⟩
  cases sliced
  rw [ColumnVector.childAgreesAt_some, ColumnVector.AgreesAt.eq_def]
  obtain rfl | rfl : place = 0 ∨ place = 1 := by omega
  · exact ⟨rfl, fun _ => rfl⟩
  · exact ⟨rfl, nofun⟩

/-- The conditions are met by lists over storage that is filled up differently. -/
theorem cell_reads_padded :
    (paddedLists 0).HasShapeOf (paddedLists 7) ∧ (paddedLists 0).AgreesAt (paddedLists 7) 0 ∧
      (paddedLists 0).cell .standard (.list (.primitive .bigint)) none 0 =
        .ok (.list [.int 1, .null]) ∧
      (paddedLists 0).cell .standard (.list (.primitive .bigint)) none 0 =
        (paddedLists 7).cell .standard (.list (.primitive .bigint)) none 0 := by
  have shape : (paddedLists 0).HasShapeOf (paddedLists 7) := rfl
  have agree := paddedLists_agreesAt 0 7
  exact ⟨shape, agree, rfl, (cell_reads_designated_only .standard (paddedLists 0)
    (.list (.primitive .bigint)) none 0).2.2 (paddedLists 7) shape agree⟩

end OrcRows
