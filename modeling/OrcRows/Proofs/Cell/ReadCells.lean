import OrcRows.Proofs.Cell.DeepMaps
import OrcRows.Proofs.Cell.PresentedLeaves

/-!
# What cells that are read are made of

A cell that is read is missing, or it is made as its vector says: a leaf of an entry, a list or a
map of the elements in its slice, a record of fields, a union of a branch. The lemmas go back from
the value to these parts, and from a list to what was read at each of its places.
-/

namespace OrcRows

open Outcome

/-- What leaf storage holds is a leaf. -/
theorem LeafCells.isLeaf_of_value {cells : LeafCells} {policy : TextPolicy} {category : Category}
    {unified : Option UnifiedType} {place : Int} {value : Value}
    (read : cells.value policy category unified place = .ok value) : value.IsLeaf := by
  cases cells with
  | long values =>
    obtain ⟨stored, _, hv⟩ := bind_eq_ok read
    exact (isPlain_of_longValue hv).isLeaf
  | double values =>
    obtain ⟨stored, _, hv⟩ := bind_eq_ok read
    cases hv
    trivial
  | bytes values =>
    obtain ⟨stored, _, hv⟩ := bind_eq_ok read
    exact (isPlain_of_bytesValue hv).isLeaf
  | decimal values =>
    obtain ⟨stored, _, read⟩ := bind_eq_ok read
    obtain ⟨found, _, hv⟩ := bind_eq_ok read
    cases hv
    trivial
  | timestamp millis nanos =>
    obtain ⟨milli, _, read⟩ := bind_eq_ok read
    obtain ⟨nano, _, hv⟩ := bind_eq_ok read
    rw [timestampValue] at hv
    split at hv
    · cases hv
    · split at hv
      · cases hv
        trivial
      · split at hv <;> cases hv <;> trivial

/-- A leaf cell is a leaf. -/
theorem isLeaf_of_leafCell {policy : TextPolicy} {flags : RowFlags} {cells : LeafCells}
    {declared : NativeType} {unified : Option UnifiedType} {row : Int} {value : Value}
    (read : leafCell policy flags cells declared unified row = .ok value) : value.IsLeaf := by
  obtain ⟨found, hfound, hv⟩ := bind_eq_ok read
  have there := LeafCells.isLeaf_of_value hfound
  cases unified with
  | none =>
    cases hv
    exact there
  | some type => exact there.present hv

/-- The value at a place of rows that were read together is what was read there. -/
theorem read_of_readRows {read : Int → Outcome Value} {first : Int} {count : Nat}
    {values : List Value} (done : readRows read first count = .ok values) {place : Nat}
    {value : Value} (found : values[place]? = some value) : read (first + place) = .ok value := by
  induction count generalizing first values place with
  | zero =>
    cases done
    cases found
  | succ count ih =>
    obtain ⟨head, hhead, done⟩ := bind_eq_ok done
    obtain ⟨rest, hrest, done⟩ := bind_eq_ok done
    cases done
    cases place with
    | zero =>
      cases found
      rwa [Nat.cast_zero, add_zero]
    | succ place =>
      have there := ih hrest found
      rwa [add_assoc, add_comm 1 (place : Int), ← Nat.cast_succ] at there

namespace ColumnVector

variable {policy : TextPolicy} {flags : RowFlags} {offsets lengths : List Int}
  {declared : NativeType} {unified : Option UnifiedType} {row : Int} {value : Value}

/-- Elements that are read lie in a leaf. -/
theorem elements_eq_ok {container : String} {child : ColumnVector} {bounds : Int × Int}
    {values : List Value} (read : elements policy container child declared unified bounds =
      .ok values) :
    ∃ childFlags cells, child = leaf childFlags cells ∧
      readRows (elementCell policy childFlags cells declared unified) bounds.1 bounds.2.toNat =
        .ok values := by
  cases child with
  | leaf childFlags cells => exact ⟨childFlags, cells, rfl, read⟩
  | _ =>
    obtain ⟨_, _, read⟩ := bind_eq_ok read
    cases read

/-- A value is the list of the elements in a slice of a child. -/
def IsListOf (policy : TextPolicy) (flags : RowFlags) (offsets lengths : List Int)
    (child : Option ColumnVector) (declared : NativeType) (unified : Option UnifiedType)
    (row : Int) (value : Value) : Prop :=
  ∃ inner element bounds values, child = some inner ∧ declared.children[0]? = some element ∧
    slice flags offsets lengths row = .ok bounds ∧
    elements policy "list" inner element (unified.bind (·.element?)) bounds = .ok values ∧
    value = .list values

/-- A list that is read has the elements in its slice. -/
theorem listCell_eq_ok {child : Option ColumnVector}
    (read : listCell policy flags offsets lengths child declared unified row = .ok value) :
    IsListOf policy flags offsets lengths child declared unified row value := by
  cases child with
  | none => cases read
  | some inner =>
    obtain ⟨element, helement, read⟩ := bind_eq_ok read
    obtain ⟨bounds, hbounds, read⟩ := bind_eq_ok read
    obtain ⟨values, hvalues, read⟩ := bind_eq_ok read
    cases read
    exact ⟨inner, element, bounds, values, rfl, eq_some_of_ofOption helement, hbounds,
      hvalues, rfl⟩

/-- A value is the map of the keys and the values in slices of two leaves. -/
def IsMapOf (policy : TextPolicy) (flags : RowFlags) (offsets lengths : List Int)
    (keys values : Option ColumnVector) (declared : NativeType) (unified : Option UnifiedType)
    (row : Int) (value : Value) : Prop :=
  ∃ keyVector valueVector keyType valueType bounds keyList valueList, keys = some keyVector ∧
    values = some valueVector ∧ declared.children[0]? = some keyType ∧
    declared.children[1]? = some valueType ∧ slice flags offsets lengths row = .ok bounds ∧
    elements policy "map" keyVector keyType (unified.bind (·.key?)) bounds = .ok keyList ∧
    elements policy "map" valueVector valueType (unified.bind (·.value?)) bounds = .ok valueList ∧
    value = .map (Value.collectEntries (keyList.zip valueList))

/-- A map that is read has the keys and the values in its slice. -/
theorem mapCell_eq_ok {keys values : Option ColumnVector}
    (read : mapCell policy flags offsets lengths keys values declared unified row = .ok value) :
    IsMapOf policy flags offsets lengths keys values declared unified row value := by
  by_cases flat : IsLeafChild keys ∧ IsLeafChild values
  · obtain ⟨keyFlags, keyCells, rfl⟩ := exists_leaf_of_isLeafChild flat.1
    obtain ⟨valueFlags, valueCells, rfl⟩ := exists_leaf_of_isLeafChild flat.2
    obtain ⟨bounds, hbounds, read⟩ := bind_eq_ok read
    obtain ⟨keyType, hkeyType, read⟩ := bind_eq_ok read
    obtain ⟨keyList, hkeys, read⟩ := bind_eq_ok read
    obtain ⟨valueType, hvalueType, read⟩ := bind_eq_ok read
    obtain ⟨valueList, hvalues, read⟩ := bind_eq_ok read
    cases read
    exact ⟨_, _, keyType, valueType, bounds, keyList, valueList, rfl, rfl,
      eq_some_of_ofOption hkeyType, eq_some_of_ofOption hvalueType, hbounds, hkeys,
      hvalues, rfl⟩
  · rw [mapCell_of_deep flat] at read
    obtain ⟨_, _, read⟩ := bind_eq_ok read
    cases read

/-- A value is made as the kind of its vector says. -/
def Makes (policy : TextPolicy) (declared : NativeType) (unified : Option UnifiedType) (row : Int)
    (value : Value) : ColumnVector → Prop
  | leaf _ _ => value.IsLeaf
  | list flags offsets lengths child =>
    IsListOf policy flags offsets lengths child declared unified row value
  | map flags offsets lengths keys values =>
    IsMapOf policy flags offsets lengths keys values declared unified row value
  | struct _ _ => ∃ fields, value = .row fields none
  | union _ _ _ _ => ∃ place branch inner, value = .union place branch inner
  | untyped _ => False

/-- What is made is there. -/
theorem Makes.ne_null {vector : ColumnVector}
    (made : vector.Makes policy declared unified row value) : value ≠ .null := by
  rintro rfl
  cases vector with
  | leaf => exact made
  | list =>
    obtain ⟨_, _, _, _, _, _, _, _, same⟩ := made
    cases same
  | map =>
    obtain ⟨_, _, _, _, _, _, _, _, _, _, _, _, _, _, same⟩ := made
    cases same
  | struct =>
    obtain ⟨_, same⟩ := made
    cases same
  | union =>
    obtain ⟨_, _, _, same⟩ := made
    cases same
  | untyped => exact made

/-- A list is made of a list vector. -/
theorem Makes.exists_list {vector : ColumnVector} {values : List Value}
    (made : vector.Makes policy declared unified row (.list values)) :
    ∃ flags offsets lengths child, vector = list flags offsets lengths child ∧
      IsListOf policy flags offsets lengths child declared unified row (.list values) := by
  cases vector with
  | list flags offsets lengths child => exact ⟨flags, offsets, lengths, child, rfl, made⟩
  | leaf | untyped => exact made.elim
  | map =>
    obtain ⟨_, _, _, _, _, _, _, _, _, _, _, _, _, _, same⟩ := made
    cases same
  | struct =>
    obtain ⟨_, same⟩ := made
    cases same
  | union =>
    obtain ⟨_, _, _, same⟩ := made
    cases same

/-- A map is made of a map vector. -/
theorem Makes.exists_map {vector : ColumnVector} {entries : List (Value × Value)}
    (made : vector.Makes policy declared unified row (.map entries)) :
    ∃ flags offsets lengths keys values, vector = map flags offsets lengths keys values ∧
      IsMapOf policy flags offsets lengths keys values declared unified row (.map entries) := by
  cases vector with
  | map flags offsets lengths keys values =>
    exact ⟨flags, offsets, lengths, keys, values, rfl, made⟩
  | leaf | untyped => exact made.elim
  | list =>
    obtain ⟨_, _, _, _, _, _, _, _, same⟩ := made
    cases same
  | struct =>
    obtain ⟨_, same⟩ := made
    cases same
  | union =>
    obtain ⟨_, _, _, same⟩ := made
    cases same

/-- A cell that is read is missing, or it is made as the kind of its vector says. -/
theorem cell_eq_ok {vector : ColumnVector}
    (read : vector.cell policy declared unified row = .ok value) :
    (vector.flags.nullAt row = .ok true ∧ value = .null) ∨
      (vector.flags.nullAt row = .ok false ∧ vector.Makes policy declared unified row value) := by
  rw [cell.eq_def] at read
  obtain ⟨null, hnull, read⟩ := bind_eq_ok read
  cases null with
  | true =>
    cases read
    exact .inl ⟨hnull, rfl⟩
  | false =>
    refine .inr ⟨hnull, ?_⟩
    simp only [Bool.false_eq_true, if_false] at read
    obtain ⟨_, _, read⟩ := bind_eq_ok read
    cases vector with
    | leaf flags cells => exact isLeaf_of_leafCell read
    | list flags offsets lengths child => exact listCell_eq_ok read
    | map flags offsets lengths keys values => exact mapCell_eq_ok read
    | struct flags fields =>
      simp only at read
      split at read
      · cases read
      · obtain ⟨values, _, read⟩ := bind_eq_ok read
        cases read
        exact ⟨values, rfl⟩
    | union flags tags branches offsets =>
      obtain ⟨_, _, read⟩ := bind_eq_ok read
      obtain ⟨place, _, read⟩ := bind_eq_ok read
      obtain ⟨branch, _, read⟩ := bind_eq_ok read
      obtain ⟨_, _, read⟩ := bind_eq_ok read
      obtain ⟨inner, _, read⟩ := bind_eq_ok read
      cases read
      exact ⟨_, branch, inner, rfl⟩
    | untyped flags => cases read

end ColumnVector

end OrcRows
