import OrcRows.Proofs.Cell.PresentedKeys
import OrcRows.Proofs.Cell.ReadCells
import OrcRows.Proofs.Cell.Steps
import OrcRows.Proofs.Table.Parts
import Mathlib.Logic.Relation

/-!
# Cells inside a cell

Reading a row of a struct vector reads the cells of its fields one after the other, and reading a
row of a union vector reads the cell of its branch. What is found there decides: a fault of an inner
cell is the fault of the outer one, its value is a part of the outer value, and every part with
parts of its own is the value of an inner cell.
-/

namespace OrcRows

open Outcome

namespace Value

/-- A value without parts; it may be missing. -/
def IsFlat : Value → Prop
  | list _ | map _ | row _ _ | union _ _ _ => False
  | _ => True

/-- A declared value has another one right inside it: an element, a key or a value of a map, a field
or the active branch of a union, each with the type at its place. -/
inductive HasPart : Value × NativeType → Value × NativeType → Prop
  | element {elements : List Value} {value : Value} {declared type : NativeType}
      (member : value ∈ elements) (typed : declared.children[0]? = some type) :
      HasPart (list elements, declared) (value, type)
  | key {entries : List (Value × Value)} {entry : Value × Value} {declared type : NativeType}
      (member : entry ∈ entries) (typed : declared.children[0]? = some type) :
      HasPart (map entries, declared) (entry.1, type)
  | value {entries : List (Value × Value)} {entry : Value × Value} {declared type : NativeType}
      (member : entry ∈ entries) (typed : declared.children[1]? = some type) :
      HasPart (map entries, declared) (entry.2, type)
  | field {fields : List Value} {tableId : Option String} {place : Nat} {value : Value}
      {declared type : NativeType} (found : fields[place]? = some value)
      (typed : declared.children[place]? = some type) :
      HasPart (row fields tableId, declared) (value, type)
  | branch {place : Nat} {value : Value} {declared type : NativeType}
      (typed : declared.children[place]? = some type) :
      HasPart (union place type value, declared) (value, type)

/-- There is nothing inside a value without parts. -/
theorem IsFlat.not_hasPart {value : Value} {declared : NativeType} {part : Value × NativeType}
    (h : value.IsFlat) : ¬ HasPart (value, declared) part := by
  intro inside
  cases inside <;> exact h

section Leaves

variable {policy : TextPolicy} {category : Category} {unified : Option UnifiedType}
  {value result : Value}

/-- What leaf storage holds has no parts. -/
theorem isFlat_of_cells {cells : LeafCells} {place : Int}
    (read : cells.value policy category unified place = .ok value) : value.IsFlat := by
  cases cells with
  | long values =>
    obtain ⟨_, _, read⟩ := bind_eq_ok read
    rw [longValue.eq_def] at read
    split at read
    case h_5 =>
      split at read
      · cases read
        trivial
      · cases read
    all_goals
      cases read
      trivial
  | double values =>
    obtain ⟨_, _, rfl⟩ := map_eq_ok read
    trivial
  | bytes values =>
    obtain ⟨_, _, read⟩ := bind_eq_ok read
    rw [bytesValue] at read
    split at read
    · cases read
      trivial
    · obtain ⟨_, _, rfl⟩ := map_eq_ok read
      trivial
  | decimal values =>
    obtain ⟨_, _, read⟩ := bind_eq_ok read
    obtain ⟨_, _, read⟩ := bind_eq_ok read
    cases read
    trivial
  | timestamp millis nanos =>
    obtain ⟨_, _, read⟩ := bind_eq_ok read
    obtain ⟨_, _, read⟩ := bind_eq_ok read
    rw [timestampValue] at read
    split at read
    · cases read
    · split at read
      · cases read
        trivial
      · split at read
        · cases read
          trivial
        · cases read
          trivial

/-- The text of a value without parts has none. -/
theorem IsFlat.toText {encoding : Encoding} (h : value.IsFlat)
    (done : value.toText encoding = .ok result) : result.IsFlat := by
  cases value with
  | list | map | row | union => exact h.elim
  | bytes =>
    obtain ⟨_, _, rfl⟩ := map_eq_ok done
    trivial
  | _ =>
    cases done
    trivial

/-- A value without parts has none with the scale of a type. -/
theorem IsFlat.toScale {precision scale : Option Int} (h : value.IsFlat)
    (done : value.toScale precision scale = .ok result) : result.IsFlat := by
  cases value with
  | decimal =>
    obtain ⟨_, _, _, _, _, _, _, _, _, _, rfl⟩ := exists_toScale done
    trivial
  | _ =>
    cases done
    exact h

/-- A value without parts has none as a floating-point number. -/
theorem IsFlat.toFloating {single : Bool} (h : value.IsFlat)
    (done : value.toFloating single = .ok result) : result.IsFlat := by
  cases value with
  | int =>
    obtain ⟨_, _, done⟩ := bind_eq_ok done
    cases done
    trivial
  | _ =>
    cases done
    exact h

/-- A value without parts has none as a moment. -/
theorem IsFlat.toTimestamp (h : value.IsFlat) : value.toTimestamp.IsFlat := by
  cases value with
  | date => trivial
  | _ => exact h

/-- A value without parts has none under the type of its column. -/
theorem IsFlat.present (h : value.IsFlat)
    (done : value.present policy category unified = .ok result) : result.IsFlat := by
  rw [Value.present.eq_def] at done
  split at done
  · cases done
    exact h
  · exact h.toScale done
  · split at done
    · split at done
      · cases done
        trivial
      · exact h.toText done
    · exact h.toFloating done
    · exact h.toFloating done
    · cases done
      exact h.toTimestamp
    · cases done
      exact h

end Leaves

end Value

section Elements

variable {policy : TextPolicy} {flags : RowFlags} {cells : LeafCells} {declared : NativeType}
  {unified : Option UnifiedType} {row : Int}

/-- A leaf cell has no parts. -/
theorem isFlat_of_leafCell {value : Value}
    (read : leafCell policy flags cells declared unified row = .ok value) : value.IsFlat := by
  obtain ⟨_, hfound, read⟩ := bind_eq_ok read
  exact (Value.isFlat_of_cells hfound).present read

/-- Elements that are read have no parts. -/
theorem isFlat_of_elements {container : String} {child : ColumnVector} {bounds : Int × Int}
    {values : List Value}
    (read : elements policy container child declared unified bounds = .ok values) :
    ∀ value ∈ values, value.IsFlat := by
  intro value member
  obtain ⟨_, _, rfl, read⟩ := ColumnVector.elements_eq_ok read
  obtain ⟨place, found⟩ := List.mem_iff_getElem?.mp member
  obtain ⟨null, _, there⟩ := bind_eq_ok (read_of_readRows read found)
  cases null with
  | true =>
    cases there
    trivial
  | false => exact isFlat_of_leafCell there

end Elements

namespace ColumnVector

variable {policy : TextPolicy} {flags : RowFlags} {declared : NativeType}
  {unified : Option UnifiedType} {row : Int} {value : Value}

section Fields

variable {fields : List ColumnVector} {natives : List NativeType} {types : List UnifiedType}

/-- Fields that are read have a value each, and those before any of them are read as well. -/
theorem fieldCells_ok {values : List Value}
    (read : fieldCells policy fields natives types row = .ok values) :
    values.length = fields.length ∧
      ∀ (place : Nat) (field : ColumnVector), fields[place]? = some field →
        ∃ native value earlier, natives[place]? = some native ∧ values[place]? = some value ∧
          field.cell policy native types[place]? row = .ok value ∧
          fieldCells policy (fields.take place) natives types row = .ok earlier := by
  induction fields generalizing natives types values with
  | nil =>
    rw [fieldCells.eq_def] at read
    cases read
    exact ⟨rfl, by simp⟩
  | cons head fields ih =>
    match natives with
    | [] =>
      rw [fieldCells.eq_def] at read
      cases read
    | native :: natives =>
      rw [fieldCells_cons] at read
      obtain ⟨first, hfirst, read⟩ := bind_eq_ok read
      obtain ⟨rest, hrest, read⟩ := bind_eq_ok read
      cases read
      obtain ⟨count, inner⟩ := ih hrest
      refine ⟨by rw [List.length_cons, List.length_cons, count], ?_⟩
      intro place field found
      cases place with
      | zero =>
        cases found
        refine ⟨native, first, [], rfl, rfl, ?_, ?_⟩
        · rwa [List.head?_eq_getElem?] at hfirst
        · rw [List.take_zero, fieldCells.eq_def]
      | succ place =>
        obtain ⟨type, value, earlier, htype, hvalue, there, before⟩ := inner place field found
        refine ⟨type, value, first :: earlier, htype, hvalue, ?_, ?_⟩
        · rwa [List.getElem?_tail] at there
        · rw [List.take_succ_cons, fieldCells_cons, hfirst, ok_bind, before]
          rfl

/-- The first fault among the cells of fields is the fault of all of them. -/
theorem fieldCells_error {place : Nat} {field : ColumnVector} {native : NativeType}
    {earlier : List Value} {fault : Fault} (found : fields[place]? = some field)
    (typed : natives[place]? = some native)
    (before : fieldCells policy (fields.take place) natives types row = .ok earlier)
    (fails : field.cell policy native types[place]? row = .error fault) :
    fieldCells policy fields natives types row = .error fault := by
  induction place generalizing fields natives types earlier with
  | zero =>
    match fields, natives with
    | [], _ => cases found
    | _ :: _, [] => cases typed
    | _ :: _, _ :: _ =>
      cases found
      cases typed
      rw [fieldCells_cons, List.head?_eq_getElem?, fails, error_bind]
  | succ place ih =>
    match fields, natives with
    | [], _ => cases found
    | _ :: _, [] => cases typed
    | head :: fields, first :: natives =>
      rw [List.take_succ_cons, fieldCells_cons] at before
      obtain ⟨value, hvalue, before⟩ := bind_eq_ok before
      obtain ⟨rest, hrest, before⟩ := bind_eq_ok before
      have there := ih found typed hrest (by rwa [List.getElem?_tail])
      rw [fieldCells_cons, hvalue, ok_bind, there, error_bind]

end Fields

/-- A row of a struct vector that is read is missing, or it is the record of its fields. -/
theorem cell_struct_eq_ok {fields : List ColumnVector}
    (read : (struct flags fields).cell policy declared unified row = .ok value) :
    (flags.nullAt row = .ok true ∧ value = .null) ∨
      (flags.nullAt row = .ok false ∧ declared.category = .struct ∧
        fields.length ≤ declared.children.length ∧
        ∃ values, value = .row values none ∧
          fieldCells policy fields declared.children ((unified.map (·.fieldTypes)).getD []) row =
            .ok values) := by
  obtain ⟨null, rfl⟩ | ⟨there, _⟩ := cell_eq_ok read
  · exact .inl ⟨null, rfl⟩
  · refine .inr ⟨there, ?_⟩
    rw [cell.eq_def, there, ok_bind] at read
    obtain ⟨_, shape, read⟩ := bind_eq_ok read
    simp only at read
    split at read
    · cases read
    · obtain ⟨values, hvalues, read⟩ := bind_eq_ok read
      cases read
      exact ⟨category_of_checkShape rfl shape, by omega, values, rfl, hvalues⟩

/-- A row of a union vector that is read is missing, or it is the cell of the branch that its tag
designates. -/
theorem cell_union_eq_ok {tags : List Int} {branches : List ColumnVector}
    {offsets : Option (List Int)}
    (read : (union flags tags branches offsets).cell policy declared unified row = .ok value) :
    (flags.nullAt row = .ok true ∧ value = .null) ∨
      (flags.nullAt row = .ok false ∧ declared.category = .union ∧
        ∃ (place : Nat) (branch : ColumnVector) (type : NativeType) (target : Int) (inner : Value),
          Position.get? tags (flags.index row) = some (place : Int) ∧
          branches[place]? = some branch ∧ declared.children[place]? = some type ∧
          branchRow flags offsets row = .ok target ∧
          branch.cell policy type none target = .ok inner ∧ value = .union place type inner) := by
  obtain ⟨null, rfl⟩ | ⟨there, _⟩ := cell_eq_ok read
  · exact .inl ⟨null, rfl⟩
  · refine .inr ⟨there, ?_⟩
    rw [cell.eq_def, there, ok_bind] at read
    obtain ⟨_, shape, read⟩ := bind_eq_ok read
    obtain ⟨tag, htag, read⟩ := bind_eq_ok read
    obtain ⟨place, hplace, read⟩ := bind_eq_ok read
    obtain ⟨type, htype, read⟩ := bind_eq_ok read
    obtain ⟨target, htarget, read⟩ := bind_eq_ok read
    obtain ⟨inner, hinner, read⟩ := bind_eq_ok read
    cases read
    obtain ⟨rfl, _, within⟩ := branchOf_eq_ok hplace
    have found := List.getElem?_eq_getElem within
    rw [branchCell_eq found] at hinner
    exact ⟨category_of_checkShape rfl shape, place, _, type, target, inner,
      eq_some_of_ofOption htag, found,
      eq_some_of_ofOption htype, htarget, hinner, rfl⟩

end ColumnVector

/-- Where a cell is read: a vector, its declared type, the type of its column, and a row. -/
structure CellSpot where
  /-- The vector. -/
  vector : ColumnVector
  /-- The declared type of the vector. -/
  declared : NativeType
  /-- The type of its column, if there is one. -/
  unified : Option UnifiedType
  /-- The row. -/
  row : Int

namespace CellSpot

open ColumnVector Value

/-- The cell that is read at a spot. -/
def cell (policy : TextPolicy) (spot : CellSpot) : Outcome Value :=
  spot.vector.cell policy spot.declared spot.unified spot.row

/-- Reading a cell comes to another one right inside it: the cell of a field, if those of the fields
before it are read, or the cell of the branch that a tag designates. -/
inductive Reads (policy : TextPolicy) : CellSpot → CellSpot → Prop
  | field {flags : RowFlags} {fields : List ColumnVector} {declared type : NativeType}
      {unified : Option UnifiedType} {row : Int} {place : Nat} {field : ColumnVector}
      {earlier : List Value} (there : flags.nullAt row = .ok false)
      (shape : declared.category = .struct) (fits : fields.length ≤ declared.children.length)
      (found : fields[place]? = some field) (typed : declared.children[place]? = some type)
      (before : fieldCells policy (fields.take place) declared.children
        ((unified.map (·.fieldTypes)).getD []) row = .ok earlier) :
      Reads policy ⟨struct flags fields, declared, unified, row⟩
        ⟨field, type, ((unified.map (·.fieldTypes)).getD [])[place]?, row⟩
  | branch {flags : RowFlags} {tags : List Int} {branches : List ColumnVector}
      {offsets : Option (List Int)} {declared type : NativeType} {unified : Option UnifiedType}
      {row target : Int} {place : Nat} {branch : ColumnVector}
      (there : flags.nullAt row = .ok false) (shape : declared.category = .union)
      (tagged : Position.get? tags (flags.index row) = some (place : Int))
      (found : branches[place]? = some branch) (typed : declared.children[place]? = some type)
      (led : branchRow flags offsets row = .ok target) :
      Reads policy ⟨union flags tags branches offsets, declared, unified, row⟩
        ⟨branch, type, none, target⟩

variable {policy : TextPolicy} {outer inner : CellSpot} {value : Value}

/-- The fault of an inner cell that is come to is the fault of the outer one. -/
theorem Reads.cell_error {fault : Fault} (h : Reads policy outer inner)
    (fails : inner.cell policy = .error fault) : outer.cell policy = .error fault := by
  cases h with
  | field there shape fits found typed before =>
    rw [CellSpot.cell, cell_struct there shape fits, fieldCells_error found typed before fails]
    rfl
  | branch there shape tagged found typed led =>
    have within := (List.getElem?_eq_some_iff.mp found).1
    have inside : ColumnVector.cell _ _ _ _ _ = .error fault := fails
    rw [CellSpot.cell, cell_union there shape tagged within typed led, branchCell_eq found, inside]
    rfl

/-- If the outer cell is read, so is every inner one, and its value is a part of the outer one. -/
theorem Reads.exists_part (h : Reads policy outer inner) (read : outer.cell policy = .ok value) :
    ∃ part, inner.cell policy = .ok part ∧
      HasPart (value, outer.declared) (part, inner.declared) := by
  cases h with
  | field there shape fits found typed before =>
    obtain ⟨null, _⟩ | ⟨_, _, _, values, rfl, hvalues⟩ := cell_struct_eq_ok read
    · cases there.symm.trans null
    · obtain ⟨_, inside⟩ := fieldCells_ok hvalues
      obtain ⟨native, part, _, hnative, hpart, hcell, _⟩ := inside _ _ found
      cases typed.symm.trans hnative
      exact ⟨part, hcell, .field hpart typed⟩
  | branch there shape tagged found typed led =>
    obtain ⟨null, _⟩ | ⟨_, _, place, _, type, target, part, htag, hfound, htype, hled, hcell,
      rfl⟩ := cell_union_eq_ok read
    · cases there.symm.trans null
    · cases Int.ofNat_inj.mp (Option.some_inj.mp (tagged.symm.trans htag))
      cases found.symm.trans hfound
      cases typed.symm.trans htype
      cases led.symm.trans hled
      exact ⟨part, hcell, .branch typed⟩

/-- A part of a cell that is read has no parts itself, or it is the value of an inner cell. -/
theorem isFlat_or_reads {part : Value} {type : NativeType} (read : outer.cell policy = .ok value)
    (inside : HasPart (value, outer.declared) (part, type)) :
    part.IsFlat ∨ ∃ inner, Reads policy outer inner ∧ inner.declared = type ∧
      inner.cell policy = .ok part := by
  obtain ⟨vector, declared, unified, row⟩ := outer
  cases vector with
  | leaf flags cells =>
    obtain ⟨_, rfl⟩ | ⟨there, _⟩ := cell_eq_ok read
    · cases inside
    · rw [CellSpot.cell, cell_leaf there] at read
      exact ((isFlat_of_leafCell read).not_hasPart inside).elim
  | list flags offsets lengths child =>
    obtain ⟨_, rfl⟩ | ⟨_, _, _, _, _, _, _, _, helements, rfl⟩ := cell_eq_ok read
    · cases inside
    · cases inside with
      | element member _ => exact .inl (isFlat_of_elements helements _ member)
  | map flags offsets lengths keys values =>
    obtain ⟨_, rfl⟩ | ⟨_, _, _, _, _, _, keyList, valueList, _, _, _, _, _, hkeys, hvalues, rfl⟩ :=
      cell_eq_ok read
    · cases inside
    · have flat : ∀ entry ∈ collectEntries (keyList.zip valueList),
          entry.1.IsFlat ∧ entry.2.IsFlat :=
        forall_collectEntries IsFlat IsFlat fun pair member =>
          ⟨isFlat_of_elements hkeys _ (List.of_mem_zip member).1,
            isFlat_of_elements hvalues _ (List.of_mem_zip member).2⟩
      cases inside with
      | key member _ => exact .inl (flat _ member).1
      | value member _ => exact .inl (flat _ member).2
  | struct flags fields =>
    obtain ⟨_, rfl⟩ | ⟨there, shape, fits, values, rfl, hvalues⟩ := cell_struct_eq_ok read
    · cases inside
    · cases inside with
      | @field _ _ place _ _ _ found typed =>
        obtain ⟨count, inner⟩ := fieldCells_ok hvalues
        have within : place < fields.length := by
          rw [← count]
          exact (List.getElem?_eq_some_iff.mp found).1
        obtain ⟨native, part', earlier, hnative, hpart, hcell, before⟩ :=
          inner place _ (List.getElem?_eq_getElem within)
        cases typed.symm.trans hnative
        cases found.symm.trans hpart
        exact .inr ⟨_, .field there shape fits (List.getElem?_eq_getElem within) typed before,
          rfl, hcell⟩
  | union flags tags branches offsets =>
    obtain ⟨_, rfl⟩ | ⟨there, shape, place, branch, type, target, part, tagged, found, typed, led,
      hcell, rfl⟩ := cell_union_eq_ok read
    · cases inside
    · cases inside with
      | branch _ => exact .inr ⟨_, .branch there shape tagged found typed led, rfl, hcell⟩
  | untyped flags =>
    obtain ⟨_, rfl⟩ | ⟨_, made⟩ := cell_eq_ok read
    · cases inside
    · exact made.elim

end CellSpot

end OrcRows
