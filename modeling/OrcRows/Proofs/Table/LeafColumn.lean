import OrcRows.Proofs.Cell.Steps
import OrcRows.Proofs.Table.Element
import OrcRows.Proofs.Text.Utf8

/-!
# Cells of leaf columns

The vector of a column has the null flags of the column. Where a leaf is there, its cell is what the
column stands for: narrowing and decoding undo what was done to lay the cell out.
-/

namespace OrcRows

namespace RowFlags

/-- The flags of a column tell which rows are there. -/
theorem nullAt_ofPresent {present : List Bool} {row : Nat} {there : Bool}
    (h : present[row]? = some there) : (ofPresent present).nullAt row = .ok (!there) := by
  rw [ofPresent]
  split
  case isTrue all =>
    have ht : there = true := List.all_eq_true.mp all there (List.mem_of_getElem? h)
    rw [ht]
    rfl
  case isFalse some =>
    simp [nullAt, index, h]

/-- Rows of a column are addressed one by one. -/
theorem index_ofPresent (present : List Bool) (row : Int) :
    (ofPresent present).index row = row := by
  rw [ofPresent]
  split <;> rfl

/-- Rows without nulls are rows that are all there. -/
theorem allPresent_eq_ofPresent {α : Type} (rows : List α) :
    allPresent rows.length = ofPresent (rows.map fun _ => true) := by
  have hall : (rows.map fun _ => true).all id = true := by simp
  rw [ofPresent, if_pos hall, allPresent, List.map_map]
  congr 1
  exact List.map_const'.symm

end RowFlags

namespace ColumnVector

/-- The vector of a column has the flags of the column. -/
theorem flags_ofColumn {type : ColumnType} {data : ColumnData} {vector : ColumnVector}
    (h : ofColumn type data = .ok vector) : vector.flags = .ofPresent data.presence := by
  rw [ofColumn.eq_def] at h
  split at h
  case h_1 => contradiction
  case h_10 =>
    obtain ⟨child, _, h⟩ := Outcome.bind_eq_ok h
    injection h with same
    rw [← same]
    rfl
  case h_11 =>
    obtain ⟨keys, _, h⟩ := Outcome.bind_eq_ok h
    obtain ⟨values, _, h⟩ := Outcome.bind_eq_ok h
    injection h with same
    rw [← same]
    rfl
  case h_12 =>
    obtain ⟨columns, _, h⟩ := Outcome.bind_eq_ok h
    injection h with same
    rw [← same]
    rfl
  case h_13 =>
    obtain ⟨tags, _, h⟩ := Outcome.bind_eq_ok h
    obtain ⟨columns, _, h⟩ := Outcome.bind_eq_ok h
    injection h with same
    rw [← same]
    exact RowFlags.allPresent_eq_ofPresent _
  case h_14 => contradiction
  all_goals
    injection h with same
    rw [← same]
    rfl

section Leaf

variable {policy : TextPolicy} {declared : NativeType} {unified : Option UnifiedType} {α : Type}
  {cells : List (Option α)} {store : List (Option α) → LeafCells} {row : Nat}

/-- Where a leaf is missing, nothing is read. -/
theorem cell_ofColumn_missing {type : ColumnType} {data : ColumnData} {vector : ColumnVector}
    (h : ofColumn type data = .ok vector) (absent : data.presence[row]? = some false) :
    vector.cell policy declared unified row = .ok .null := by
  apply cell_null
  rw [flags_ofColumn h]
  exact RowFlags.nullAt_ofPresent absent

/-- Where a leaf is there, its cell is the value in storage. -/
theorem cell_ofCells {stored : α} {value : Value} (found : cells[row]? = some (some stored))
    (hv : (store cells).value policy declared.category none (row : Int) = .ok value) :
    (ofCells cells store).cell policy declared none row = .ok value := by
  have hthere : (cells.map (·.isSome))[row]? = some true := by rw [List.getElem?_map, found]; rfl
  have hflags : (ofCells cells store).flags.nullAt row = .ok false :=
    RowFlags.nullAt_ofPresent hthere
  rw [ofCells, cell_leaf hflags, leafCell, RowFlags.index_ofPresent, hv]
  rfl

/-- A filler does not hide what is there. -/
theorem get?_filled {filler stored : α} (found : cells[row]? = some (some stored)) :
    Position.get? (filled filler cells) row = some stored := by
  rw [Position.get?_ofNat, filled, List.getElem?_map, found]
  rfl

end Leaf

end ColumnVector

/-- A number of nanoseconds that is split and put together again is rounded down to the
microsecond. -/
theorem ofMillisNanos?_splitNanos {nanos : Int} {timestamp : Timestamp}
    (floor : timestamp.IsFloorOf nanos) :
    Timestamp.ofMillisNanos? (splitNanos nanos).1 (splitNanos nanos).2 = some timestamp := by
  obtain ⟨micros, range⟩ := timestamp
  obtain ⟨hl, hu⟩ := floor
  have hmicros : (splitNanos nanos).1.fdiv 1000 * 1000000 + (splitNanos nanos).2.fdiv 1000 =
      micros := by
    simp only [splitNanos]
    rw [Int.fdiv_eq_ediv_of_nonneg _ (by omega), Int.fdiv_eq_ediv_of_nonneg _ (by omega),
      Int.fdiv_eq_ediv_of_nonneg _ (by omega), Int.fdiv_eq_ediv_of_nonneg _ (by omega),
      Int.fmod_eq_emod_of_nonneg _ (by omega)]
    dsimp only at hl hu
    omega
  rw [Timestamp.ofMillisNanos?, hmicros, Timestamp.ofMicros?, dif_pos range]

/-- An accepted integer type has one of four widths. -/
theorem NativeType.ofColumn_integer {bits : Nat} {declared : NativeType}
    (h : ofColumn (.integer true bits) = .ok declared) :
    bits = 8 ∧ declared = primitive .tinyint ∨ bits = 16 ∧ declared = primitive .smallint ∨
      bits = 32 ∧ declared = primitive .int ∨ bits = 64 ∧ declared = primitive .bigint := by
  rw [ofColumn.eq_def] at h
  split at h
  case h_17 => contradiction
  case h_13 | h_14 | h_15 | h_16 => simp_all
  all_goals
    injection h with same
    simp_all

/-- An integer in the range of its column's type is what its cell is read as. -/
theorem longValue_of_ofColumn {bits : Nat} {declared : NativeType} {value : Int}
    (h : NativeType.ofColumn (.integer true bits) = .ok declared) (range : FitsBits bits value) :
    longValue declared.category value = .ok (.int value) := by
  have hwrapped : ∀ wrapped, wrapped = value →
      (Except.ok (.int wrapped) : Outcome Value) = .ok (.int value) := by
    intro wrapped hw
    rw [hw]
  rcases NativeType.ofColumn_integer h with ⟨rfl, rfl⟩ | ⟨rfl, rfl⟩ | ⟨rfl, rfl⟩ | ⟨rfl, rfl⟩
  · exact hwrapped _ (wrap_of_fitsBits (by norm_num) range)
  · exact hwrapped _ (wrap_of_fitsBits (by norm_num) range)
  · exact hwrapped _ (wrap_of_fitsBits (by norm_num) range)
  · rfl

/-- Well-formed bytes are read as the text that they encode. -/
theorem bytesValue_encode (text : String) :
    bytesValue .standard .string (Utf8.encode text.toList) = .ok (.text text) := by
  have hdecode : TextPolicy.standard.encoding.textOf (Utf8.encode text.toList) = .ok text := by
    rw [TextPolicy.standard, Encoding.textOf_utf8, Utf8.decode_encode]
    exact congrArg Except.ok String.ofList_toList
  rw [bytesValue, if_neg (by simp [TextPolicy.standard]), hdecode]
  rfl

namespace ColumnData

/-- A row of a column is read as a value: the cell of its vector is that value. -/
def IsReadAs (type : ColumnType) (data : ColumnData) (row : Nat) (value : Value) : Prop :=
  ∀ (declared : NativeType) (vector : ColumnVector), NativeType.ofColumn type = .ok declared →
    ColumnVector.ofColumn type data = .ok vector →
    vector.cell .standard declared none row = .ok value

variable {type : ColumnType} {data : ColumnData} {row : Nat} {value : Value}

/-- A row where nothing is there is read as nothing. -/
theorem isReadAs_null (absent : data.presence[row]? = some false) : data.IsReadAs type row .null :=
  fun _ _ _ laid => ColumnVector.cell_ofColumn_missing laid absent

/-- A row of a leaf column is read as what the column stands for. -/
theorem Denotes.isReadAs_of_isLeaf (denotes : data.Denotes type row value)
    (valid : data.Valid type) (leaf : type.IsLeaf) : data.IsReadAs type row value := by
  intro declared vector accepted laid
  cases denotes with
  | missing absent => exact isReadAs_null absent declared vector accepted laid
  | @boolean cells _ value found =>
    injection laid with same
    injection accepted with same'
    subst same same'
    apply ColumnVector.cell_ofCells found
    simp only [LeafCells.value, ColumnVector.get?_filled found]
    cases value <;> rfl
  | @integer _ bits cells _ value found =>
    cases valid with
    | integer range =>
    injection laid with same
    subst same
    apply ColumnVector.cell_ofCells found
    simp only [LeafCells.value, ColumnVector.get?_filled found]
    exact longValue_of_ofColumn accepted (range value (List.mem_of_getElem? found))
  | floating found =>
    injection laid with same
    subst same
    apply ColumnVector.cell_ofCells found
    simp only [LeafCells.value, ColumnVector.get?_filled found]
    cases valid with
    | single range =>
      injection accepted with same'
      have hsingle := Binary64.toSingle_of_isSingle (range _ (List.mem_of_getElem? found))
      have hcategory : (NativeType.primitive .float).category = .float := rfl
      rw [← same', Outcome.ofOption_some, Except.map, doubleValue, if_pos hcategory, hsingle]
    | double =>
      injection accepted with same'
      rw [← same']
      rfl
  | text found =>
    injection laid with same
    injection accepted with same'
    subst same same'
    apply ColumnVector.cell_ofCells found
    simp only [LeafCells.value, ColumnVector.get?_filled found]
    exact bytesValue_encode _
  | binary found =>
    injection laid with same
    injection accepted with same'
    subst same same'
    apply ColumnVector.cell_ofCells found
    simp only [LeafCells.value, ColumnVector.get?_filled found]
    rfl
  | @date cells _ day found =>
    injection laid with same
    injection accepted with same'
    subst same same'
    apply ColumnVector.cell_ofCells found
    have hday : Date.ofEpochDay? day.epochDay = some day := Date.ofEpochDay?_eq_some_iff.mpr rfl
    simp only [LeafCells.value, ColumnVector.get?_filled found]
    rw [Outcome.ofOption_some, Outcome.ok_bind]
    simp [longValue, NativeType.primitive, NativeType.category, hday]
  | @timestamp unit cells _ count stamp found floor =>
    injection laid with same
    injection accepted with same'
    subst same same'
    apply ColumnVector.cell_ofCells found
    have hstamp := ofMillisNanos?_splitNanos floor
    simp [LeafCells.ofCounts, LeafCells.value, filled, found, timestampValue, hstamp,
      NativeType.primitive, NativeType.category]
  | decimal found =>
    injection laid with same
    injection accepted with same'
    subst same same'
    apply ColumnVector.cell_ofCells found
    simp [LeafCells.value, found, Decimal.ofValue?, pure, Except.pure]
  | list | map | struct | union => exact leaf.elim

end ColumnData

end OrcRows
