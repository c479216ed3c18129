import OrcRows.Cell.Decode
import OrcRows.Proofs.Outcome

/-!
# One step of reading a cell

Reading a cell first looks at the null flag of the row, then at the shapes of the vector and of the
declared type. What is left after that is one step for each kind of vector, and the lemmas say
which.
-/

namespace OrcRows

/-- A slice is where its offset and its length are. -/
theorem slice_eq_ok {flags : RowFlags} {offsets lengths : List Int} {row offset length : Int}
    (ho : Position.get? offsets (flags.index row) = some offset)
    (hl : Position.get? lengths (flags.index row) = some length) :
    slice flags offsets lengths row = .ok (offset, length) := by
  rw [slice, ho, hl]
  rfl

/-- What is read at consecutive rows ends well if each reading does. -/
theorem ends_readRows {permitted : Fault → Prop} {good : Value → Prop}
    {read : Int → Outcome Value} {count : Nat} {first : Int}
    (h : ∀ row, first ≤ row → row < first + count → Outcome.Ends permitted good (read row)) :
    Outcome.Ends permitted (fun values => ∀ value ∈ values, good value)
      (readRows read first count) := by
  induction count generalizing first with
  | zero => simp [readRows]
  | succ count ih =>
    rw [readRows]
    apply (h first (by omega) (by omega)).bind
    intro value hv
    apply (ih fun row hl hu => h row (by omega) (by omega)).bind
    intro rest hr element hm
    rcases List.mem_cons.mp hm with rfl | hm
    · exact hv
    · exact hr element hm

/-- An element of a leaf vector is a cell of that vector. -/
theorem elementCell_eq_cell {policy : TextPolicy} {flags : RowFlags} {cells : LeafCells}
    {declared : NativeType} {unified : Option UnifiedType} {row : Int} :
    elementCell policy flags cells declared unified row =
      (ColumnVector.leaf flags cells).cell policy declared unified row := by
  rw [elementCell, ColumnVector.cell.eq_def]
  rfl

/-- A branch that is found is the one of the tag, and both sides have it. -/
theorem branchOf_eq_ok {tag row : Int} {declared branches place : Nat}
    (h : branchOf tag declared branches row = .ok place) :
    tag = place ∧ place < declared ∧ place < branches := by
  rw [branchOf] at h
  split at h
  · cases h
  · split at h
    · cases h
    · injection h with same
      omega

namespace ColumnVector

variable {policy : TextPolicy} {flags : RowFlags} {declared : NativeType}
  {unified : Option UnifiedType} {row : Int}

/-- A null row has no value. -/
theorem cell_null {vector : ColumnVector} (h : vector.flags.nullAt row = .ok true) :
    vector.cell policy declared unified row = .ok .null := by
  rw [cell.eq_def, h]
  rfl

/-- A row of a leaf vector is a leaf cell. -/
theorem cell_leaf {cells : LeafCells} (h : (leaf flags cells).flags.nullAt row = .ok false) :
    (leaf flags cells).cell policy declared unified row =
      leafCell policy flags cells declared unified row := by
  rw [cell.eq_def, h]
  rfl

/-- A vector that holds other vectors has the category that it is made for. -/
theorem category_of_checkShape {vector : ColumnVector} {expected : Category}
    (made : vector.category? = some expected) (h : vector.checkShape declared row = .ok ()) :
    declared.category = expected := by
  rw [checkShape, made] at h
  by_cases same : declared.category = expected
  · exact same
  · simp only [if_neg same] at h
    cases h

/-- A row of a list vector is a list. -/
theorem cell_list {offsets lengths : List Int} {child : Option ColumnVector}
    (h : (list flags offsets lengths child).flags.nullAt row = .ok false)
    (hc : declared.category = .list) :
    (list flags offsets lengths child).cell policy declared unified row =
      listCell policy flags offsets lengths child declared unified row := by
  rw [cell.eq_def, h, checkShape, category?]
  simp only [hc]
  rfl

/-- A row of a map vector is a map. -/
theorem cell_map {offsets lengths : List Int} {keys values : Option ColumnVector}
    (h : (map flags offsets lengths keys values).flags.nullAt row = .ok false)
    (hc : declared.category = .map) :
    (map flags offsets lengths keys values).cell policy declared unified row =
      mapCell policy flags offsets lengths keys values declared unified row := by
  rw [cell.eq_def, h, checkShape, category?]
  simp only [hc]
  rfl

/-- A row of a struct vector is a record of the cells of its fields. -/
theorem cell_struct {fields : List ColumnVector}
    (h : (struct flags fields).flags.nullAt row = .ok false)
    (hc : declared.category = .struct) (hl : fields.length ≤ declared.children.length) :
    (struct flags fields).cell policy declared unified row =
      (fieldCells policy fields declared.children ((unified.map (·.fieldTypes)).getD []) row).map
        fun values => .row values none := by
  have hwidth : ¬ declared.children.length < fields.length := by omega
  rw [cell.eq_def]
  simp only [h, checkShape, category?, hc, hwidth, if_true, if_false,
    Outcome.ok_bind, Bool.false_eq_true]
  rfl

/-- A row of a union vector is the cell of the branch that its tag designates. -/
theorem cell_union {tags : List Int} {branches : List ColumnVector} {offsets : Option (List Int)}
    {place : Nat} {branch : NativeType} {target : Int}
    (h : (union flags tags branches offsets).flags.nullAt row = .ok false)
    (hc : declared.category = .union)
    (ht : Position.get? tags (flags.index row) = some (place : Int))
    (hw : place < branches.length) (hb : declared.children[place]? = some branch)
    (hr : branchRow flags offsets row = .ok target) :
    (union flags tags branches offsets).cell policy declared unified row =
      (branchCell policy branches place branch target).map
        fun value => .union place branch value := by
  have hplace : place < declared.children.length := (List.getElem?_eq_some_iff.mp hb).1
  have hbranch : branchOf place declared.children.length branches.length row = .ok place := by
    rw [branchOf, if_neg (by omega), if_neg (by omega)]
    rfl
  rw [cell.eq_def]
  simp only [h, checkShape, category?, hc, ht, hbranch, NativeType.child, hb, hr,
    if_true, if_false, Outcome.ok_bind, Outcome.ofOption_some, Bool.false_eq_true]
  rfl

/-- The cell of a struct's first field comes before those of the others. -/
theorem fieldCells_cons {field : ColumnVector} {fields : List ColumnVector}
    {types : List NativeType} {unifieds : List UnifiedType} :
    fieldCells policy (field :: fields) (declared :: types) unifieds row = do
      let value ← field.cell policy declared unifieds.head? row
      let values ← fieldCells policy fields types unifieds.tail row
      return value :: values := by
  rw [fieldCells.eq_def]

end ColumnVector

end OrcRows
