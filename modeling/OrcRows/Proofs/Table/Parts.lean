import OrcRows.Proofs.Table.LeafColumn
import OrcRows.Proofs.Table.LeafKeys

/-!
# Parts of composite columns

The vector of a composite column is made of the vectors of its parts. Here a place of the parts on
one side meets the same place on the other: slices and their bounds, elements and child rows,
fields, and branches.
-/

namespace OrcRows

/-- The declared types of named column types stand at the places of those. -/
theorem NativeType.ofColumns_eq_ok {fields : List (String × ColumnType)}
    {declared : List (String × NativeType)} (h : ofColumns fields = .ok declared) :
    declared.length = fields.length ∧
      ∀ (place : Nat) (field : String × ColumnType), fields[place]? = some field →
        ∃ native, declared[place]? = some (field.1, native) ∧ ofColumn field.2 = .ok native := by
  induction fields generalizing declared with
  | nil =>
    injection h with same
    rw [← same]
    exact ⟨rfl, by simp⟩
  | cons head rest ih =>
    obtain ⟨name, type⟩ := head
    obtain ⟨native, hn, h⟩ := Outcome.bind_eq_ok h
    obtain ⟨natives, hs, h⟩ := Outcome.bind_eq_ok h
    injection h with same
    obtain ⟨hlength, hrest⟩ := ih hs
    rw [← same]
    refine ⟨by simp [hlength], ?_⟩
    intro place field hf
    cases place with
    | zero =>
      rw [List.getElem?_cons_zero, Option.some_inj] at hf
      exact ⟨native, by rw [← hf]; rfl, by rw [← hf]; exact hn⟩
    | succ place => exact hrest place field hf

namespace ColumnVector

/-- The vectors of columns stand at the places of those. -/
theorem ofColumns_eq_ok {fields : List (String × ColumnType)} {columns : List ColumnData}
    {vectors : List ColumnVector} (h : ofColumns fields columns = .ok vectors) :
    vectors.length = fields.length ∧ columns.length = fields.length ∧
      ∀ (place : Nat) (field : String × ColumnType) (column : ColumnData),
        fields[place]? = some field → columns[place]? = some column →
        ∃ vector, vectors[place]? = some vector ∧ ofColumn field.2 column = .ok vector := by
  induction fields generalizing columns vectors with
  | nil =>
    cases columns with
    | nil =>
      injection h with same
      rw [← same]
      exact ⟨rfl, rfl, by simp⟩
    | cons column columns => contradiction
  | cons head rest ih =>
    obtain ⟨name, type⟩ := head
    cases columns with
    | nil => contradiction
    | cons column columns =>
      obtain ⟨vector, hv, h⟩ := Outcome.bind_eq_ok h
      obtain ⟨others, hs, h⟩ := Outcome.bind_eq_ok h
      injection h with same
      obtain ⟨hlength, hcolumns, hrest⟩ := ih hs
      rw [← same]
      refine ⟨by simp [hlength], by simp [hcolumns], ?_⟩
      intro place field data hf hd
      cases place with
      | zero =>
        rw [List.getElem?_cons_zero, Option.some_inj] at hf hd
        exact ⟨vector, rfl, by rw [← hf, ← hd]; exact hv⟩
      | succ place => exact hrest place field data hf hd

/-- Columns that each have a vector have vectors. -/
theorem exists_ofColumns {fields : List (String × ColumnType)} {columns : List ColumnData}
    (hlength : columns.length = fields.length)
    (h : ∀ (place : Nat) (field : String × ColumnType) (column : ColumnData),
      fields[place]? = some field → columns[place]? = some column →
      ∃ vector, ofColumn field.2 column = .ok vector) :
    ∃ vectors, ofColumns fields columns = .ok vectors := by
  induction fields generalizing columns with
  | nil =>
    rw [List.eq_nil_of_length_eq_zero hlength]
    exact ⟨[], rfl⟩
  | cons head rest ih =>
    obtain ⟨name, type⟩ := head
    obtain ⟨column, columns, rfl⟩ := List.exists_cons_of_length_eq_add_one hlength
    obtain ⟨vector, hv⟩ := h 0 (name, type) column rfl rfl
    obtain ⟨vectors, hs⟩ := ih (by simpa using hlength) fun place field data hf hd =>
      h (place + 1) field data hf hd
    exact ⟨vector :: vectors, by rw [ofColumns.eq_def]; simp only [hv, hs]; rfl⟩

/-- A column without parts has a leaf vector. -/
theorem exists_leaf_of_isLeaf {type : ColumnType} {data : ColumnData} {vector : ColumnVector}
    (leafType : type.IsLeaf) (h : ofColumn type data = .ok vector) :
    ∃ flags cells, vector = leaf flags cells := by
  rw [ofColumn.eq_def] at h
  split at h
  case h_1 | h_10 | h_11 | h_12 | h_13 => exact leafType.elim
  case h_14 => contradiction
  all_goals
    injection h with same
    exact ⟨_, _, same.symm⟩

variable {policy : TextPolicy} {declared : NativeType} {row : Int}

/-- The cells of fields are the values at their places. -/
theorem fieldCells_eq_ok {vectors : List ColumnVector} {natives : List NativeType}
    {values : List Value} (hv : vectors.length = values.length)
    (hn : natives.length = values.length)
    (h : ∀ (place : Nat) (vector : ColumnVector) (native : NativeType) (value : Value),
      vectors[place]? = some vector → natives[place]? = some native →
      values[place]? = some value → vector.cell policy native none row = .ok value) :
    fieldCells policy vectors natives [] row = .ok values := by
  induction values generalizing vectors natives with
  | nil =>
    rw [List.eq_nil_of_length_eq_zero hv, fieldCells.eq_def]
  | cons value values ih =>
    obtain ⟨vector, vectors, rfl⟩ := List.exists_cons_of_length_eq_add_one hv
    obtain ⟨native, natives, rfl⟩ := List.exists_cons_of_length_eq_add_one hn
    have hhead := h 0 vector native value rfl rfl rfl
    have hrest := ih (by simpa using hv) (by simpa using hn) fun place vector native value =>
      h (place + 1) vector native value
    rw [fieldCells_cons, List.head?_nil, hhead, Outcome.ok_bind, List.tail_nil, hrest]
    rfl

/-- The cell of a branch is a cell of the vector at its place. -/
theorem branchCell_eq {branches : List ColumnVector} {place : Nat} {vector : ColumnVector}
    (h : branches[place]? = some vector) :
    branchCell policy branches place declared row = vector.cell policy declared none row := by
  induction branches generalizing place with
  | nil => simp at h
  | cons head rest ih =>
    cases place with
    | zero =>
      rw [List.getElem?_cons_zero, Option.some_inj] at h
      rw [branchCell.eq_def, h]
    | succ place =>
      rw [branchCell.eq_def]
      exact ih h

end ColumnVector

/-- What is read row by row is read together. -/
theorem readRows_eq_ok {read : Int → Outcome Value} {first : Int} {values : List Value}
    (h : ∀ (place : Nat) (value : Value), values[place]? = some value →
      read (first + place) = .ok value) :
    readRows read first values.length = .ok values := by
  induction values generalizing first with
  | nil => rfl
  | cons value values ih =>
    have hhead : read first = .ok value := by simpa using h 0 value rfl
    have hrest : readRows read (first + 1) values.length = .ok values := by
      apply ih
      intro place value hp
      have := h (place + 1) value hp
      rwa [Nat.cast_succ, add_comm (place : Int) 1, ← add_assoc] at this
    rw [List.length_cons, readRows, hhead, Outcome.ok_bind, hrest]
    rfl

/-- The elements of a slice of a leaf column are its values there. -/
theorem elements_ofColumn (policy : TextPolicy) (container : String) {type : ColumnType}
    {data : ColumnData} {vector : ColumnVector} (declared : NativeType) (first : Nat)
    (values : List Value) (leafType : type.IsLeaf)
    (laid : ColumnVector.ofColumn type data = .ok vector)
    (h : ∀ (place : Nat) (value : Value), values[place]? = some value →
      vector.cell policy declared none ((first + place : Nat) : Int) = .ok value) :
    elements policy container vector declared none ((first : Int), (values.length : Int)) =
      .ok values := by
  obtain ⟨flags, cells, rfl⟩ := ColumnVector.exists_leaf_of_isLeaf leafType laid
  rw [elements, Int.toNat_natCast]
  apply readRows_eq_ok
  intro place value hp
  rw [elementCell_eq_cell, ← Nat.cast_add]
  exact h place value hp

/-- The offset of a row is where its slice begins, its length how far the slice goes. -/
theorem ColumnData.IsSlice.offset_length {bounds : List Int} {row first count : Nat}
    (h : IsSlice bounds row first count) :
    bounds.dropLast[row]? = some (first : Int) ∧
      (lengthsBetween bounds)[row]? = some (count : Int) := by
  obtain ⟨hfirst, hlast⟩ := h
  have hnext : row + 1 < bounds.length := (List.getElem?_eq_some_iff.mp hlast).1
  constructor
  · rw [List.getElem?_dropLast, if_pos (by omega)]
    exact hfirst
  · have hpair : (bounds.zip bounds.tail)[row]? =
        some ((first : Int), ((first + count : Nat) : Int)) :=
      List.getElem?_zip_eq_some.mpr ⟨hfirst, by rw [List.getElem?_tail]; exact hlast⟩
    rw [lengthsBetween, List.getElem?_map, hpair]
    simp

/-- A row of a list or map designates the slice between its bounds. -/
theorem slice_ofPresent {present : List Bool} {bounds : List Int} {row first count : Nat}
    (h : ColumnData.IsSlice bounds row first count) :
    slice (.ofPresent present) bounds.dropLast (lengthsBetween bounds) row =
      .ok ((first : Int), (count : Int)) := by
  obtain ⟨ho, hl⟩ := h.offset_length
  apply slice_eq_ok
  · rw [RowFlags.index_ofPresent, Position.get?_ofNat, ho]
  · rw [RowFlags.index_ofPresent, Position.get?_ofNat, hl]

end OrcRows
