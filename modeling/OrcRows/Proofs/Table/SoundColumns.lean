import OrcRows.Proofs.Cell.SoundVectors
import OrcRows.Proofs.Table.NaturalLayout

/-!
# Columns become sound vectors

A column whose arrays go together has a vector, and if its type is accepted, the vector is sound for
the declared type: both descriptions of a table column, by its type and by its data, come to one
shape, and the bounds and offsets of the column become slices and targets of the vector. So no row
of the column asks for a position that is not there or finds parts that do not fit.
-/

namespace OrcRows

namespace RowFlags

/-- Rows that are there or missing have exact flags. -/
theorem isExact_ofPresent (present : List Bool) : (ofPresent present).IsExact := by
  rw [ofPresent]
  split
  case isTrue all => exact ⟨rfl, by simp⟩
  case isFalse some => exact ⟨rfl, by simpa using some⟩

/-- There is a flag for every row. -/
theorem length_isNull_ofPresent (present : List Bool) :
    (ofPresent present).isNull.length = present.length := by
  rw [ofPresent]
  split <;> exact List.length_map _

end RowFlags

namespace ColumnVector

/-- The vectors inside a vector. -/
def parts : ColumnVector → List ColumnVector
  | leaf .. | untyped _ => []
  | list _ _ _ child => child.toList
  | map _ _ _ keys values => keys.toList ++ values.toList
  | struct _ fields => fields
  | union _ _ branches _ => branches

end ColumnVector

/-- The columns inside a column. -/
def ColumnData.parts : ColumnData → List ColumnData
  | .list _ _ child => [child]
  | .map _ _ keys values => [keys, values]
  | .struct _ fields => fields
  | .union _ branches _ => branches
  | _ => []

namespace ColumnVector

/-- A vector and a column have the same rows at every depth. -/
inductive HasRowsOf : ColumnVector → ColumnData → Prop
  | node {vector : ColumnVector} {data : ColumnData} (rows : vector.rows = data.length)
      (width : vector.parts.length = data.parts.length)
      (inner : ∀ (place : Nat) (part : ColumnVector) (array : ColumnData),
        vector.parts[place]? = some part → data.parts[place]? = some array →
        HasRowsOf part array) : HasRowsOf vector data

variable {type : ColumnType} {data : ColumnData} {vector : ColumnVector} {declared : NativeType}

/-- The vector of a column has its rows. -/
theorem rows_ofColumn (h : ofColumn type data = .ok vector) : vector.rows = data.length := by
  have hpresence : data.presence.length = data.length := by
    cases data with
    | foreign rows => cases type <;> contradiction
    | list | map | struct => rfl
    | _ => exact List.length_map _
  rw [rows, flags_ofColumn h, RowFlags.length_isNull_ofPresent, hpresence]

/-- The vector of a column has exact flags. -/
theorem isExact_ofColumn (h : ofColumn type data = .ok vector) : vector.flags.IsExact :=
  flags_ofColumn h ▸ RowFlags.isExact_ofPresent _

/-- Cells in one array become a leaf vector with a place for every row. -/
theorem exists_leaf_of_stores (stored : data.Stores type) :
    ∃ flags cells, ofColumn type data = .ok (leaf flags cells) ∧
      cells.HasRows flags.isNull.length := by
  cases data <;> cases type <;> try contradiction
  all_goals
    refine ⟨_, _, rfl, ?_⟩
    rw [RowFlags.length_isNull_ofPresent]
    simp [LeafCells.HasRows, LeafCells.ofCounts, filled]

/-- The declared type of a type without parts has no children. -/
theorem children_of_isLeaf (leafType : type.IsLeaf)
    (accepted : NativeType.ofColumn type = .ok declared) : declared.children = [] := by
  rw [NativeType.ofColumn.eq_def] at accepted
  split at accepted
  case h_13 | h_14 | h_15 | h_16 => exact leafType.elim
  case h_17 => contradiction
  all_goals
    injection accepted with same
    rw [← same]
    rfl

/-- A leaf vector of a column is sound. -/
theorem isSound_of_stores (stored : data.Stores type) (laid : ofColumn type data = .ok vector)
    (accepted : NativeType.ofColumn type = .ok declared) : vector.IsSound declared := by
  obtain ⟨flags, cells, made, rows⟩ := exists_leaf_of_stores stored
  obtain rfl : leaf flags cells = vector := Except.ok.inj (made.symm.trans laid)
  exact .leaf (isExact_ofColumn laid)
    (matches_leaf.mp (matches_ofColumn_of_isLeaf stored.isLeaf laid accepted))
    (children_of_isLeaf stored.isLeaf accepted) rows

/-- Bounds of consecutive members become slices in order. -/
theorem areSlices_of_areBounds {bounds : List Int} {rows room : Nat}
    (h : ColumnData.AreBounds bounds rows room) :
    AreSlices bounds.dropLast (lengthsBetween bounds) rows room := by
  obtain ⟨length, bounded⟩ := h
  refine ⟨by rw [List.length_dropLast, length]; rfl, by simp [lengthsBetween, length], ?_, ?_⟩
  · have chain : bounds.IsChain (· ≤ ·) := by
      refine List.isChain_iff_getElem.mpr fun row inside => ?_
      obtain ⟨first, count, ⟨hfirst, hlast⟩, _⟩ := bounded row (by omega)
      rw [(List.getElem?_eq_some_iff.mp hfirst).2, (List.getElem?_eq_some_iff.mp hlast).2]
      omega
    exact chain.pairwise.sublist (List.dropLast_sublist bounds)
  · intro row inside
    obtain ⟨first, count, slice, fits⟩ := bounded row inside
    exact ⟨first, count, slice.offset_length.1, slice.offset_length.2, fits⟩

section Parts

variable {fields : List (String × ColumnType)} {columns : List ColumnData}
  {vectors : List ColumnVector} {natives : List (String × NativeType)}

/-- A vector of the columns of fields is the vector of the column at its place. -/
theorem exists_field_of_getElem? (laid : ofColumns fields columns = .ok vectors) {place : Nat}
    (hv : vectors[place]? = some vector) :
    ∃ field column, fields[place]? = some field ∧ columns[place]? = some column ∧
      ofColumn field.2 column = .ok vector := by
  obtain ⟨width, widthColumns, places⟩ := ofColumns_eq_ok laid
  have inside : place < fields.length := width ▸ (List.getElem?_eq_some_iff.mp hv).1
  have inside' : place < columns.length := widthColumns ▸ inside
  have hf : fields[place]? = some fields[place] := List.getElem?_eq_getElem inside
  have hc : columns[place]? = some columns[place] := List.getElem?_eq_getElem inside'
  obtain ⟨found, hfound, made⟩ := places place _ _ hf hc
  obtain rfl : found = vector := Option.some_inj.mp (hfound.symm.trans hv)
  exact ⟨_, _, hf, hc, made⟩

/-- The vectors of fields have the rows of their columns. -/
theorem rows_of_mem (laid : ofColumns fields columns = .ok vectors) {rows : Nat}
    (h : ∀ column ∈ columns, column.length = rows) (member : vector ∈ vectors) :
    vector.rows = rows := by
  obtain ⟨place, hv⟩ := List.mem_iff_getElem?.mp member
  obtain ⟨field, column, _, hc, made⟩ := exists_field_of_getElem? laid hv
  rw [rows_ofColumn made, h column (List.mem_of_getElem? hc)]

/-- The vectors of fields are sound where the vector of each field is. -/
theorem isSound_of_getElem? (laid : ofColumns fields columns = .ok vectors)
    (accepted : NativeType.ofColumns fields = .ok natives)
    (inner : ∀ (place : Nat) (field : String × ColumnType) (column : ColumnData),
      fields[place]? = some field → columns[place]? = some column →
      ∀ {vector declared}, ofColumn field.2 column = .ok vector →
        NativeType.ofColumn field.2 = .ok declared → vector.IsSound declared)
    {place : Nat} (hv : vectors[place]? = some vector)
    (hd : (natives.map (·.2))[place]? = some declared) : vector.IsSound declared := by
  obtain ⟨field, column, hf, hc, made⟩ := exists_field_of_getElem? laid hv
  obtain ⟨native, hn, taken⟩ := (NativeType.ofColumns_eq_ok accepted).2 place field hf
  obtain rfl : native = declared := by simpa [hn] using hd
  exact inner place field column hf hc made taken

/-- The vectors of fields have the rows of their columns at every depth where each vector has. -/
theorem hasRowsOf_of_getElem? (laid : ofColumns fields columns = .ok vectors)
    (inner : ∀ (place : Nat) (field : String × ColumnType) (column : ColumnData),
      fields[place]? = some field → columns[place]? = some column →
      ∀ {vector}, ofColumn field.2 column = .ok vector → vector.HasRowsOf column)
    {place : Nat} (hv : vectors[place]? = some vector) (hc : columns[place]? = some data) :
    vector.HasRowsOf data := by
  obtain ⟨field, found, hf, hfound, made⟩ := exists_field_of_getElem? laid hv
  obtain rfl : found = data := Option.some_inj.mp (hfound.symm.trans hc)
  exact inner place field found hf hfound made

/-- There are as many vectors of fields as declared types. -/
theorem width_ofColumns (laid : ofColumns fields columns = .ok vectors)
    (accepted : NativeType.ofColumns fields = .ok natives) :
    vectors.length = (natives.map (·.2)).length := by
  rw [List.length_map, (ofColumns_eq_ok laid).1, (NativeType.ofColumns_eq_ok accepted).1]

end Parts

section Union

variable {codes rowCodes tags : List Int}

/-- Known codes become tags. -/
theorem exists_tags (known : ∀ code ∈ rowCodes, code ∈ codes) :
    ∃ tags, (rowCodes.mapM fun code => Outcome.ofOption .badValue
      ((codes.idxOf? code).map fun (place : Nat) => (place : Int))) = .ok tags := by
  refine Outcome.exists_mapM_eq_ok fun code member => ?_
  obtain ⟨place, hp⟩ := Option.isSome_iff_exists.mp (List.isSome_idxOf?.mpr (known code member))
  exact ⟨place, by rw [hp]; rfl⟩

variable (tagged : (rowCodes.mapM fun code => Outcome.ofOption .badValue
    ((codes.idxOf? code).map fun (place : Nat) => (place : Int))) = .ok tags)

include tagged

/-- A tag is the place of the code of its row. -/
theorem exists_code_of_tag {row : Nat} {tag : Int} (ht : tags[row]? = some tag) :
    ∃ (code : Int) (place : Nat), rowCodes[row]? = some code ∧ codes.idxOf? code = some place ∧
      tag = place := by
  have inside : row < rowCodes.length :=
    Outcome.length_of_mapM_eq_ok tagged ▸ (List.getElem?_eq_some_iff.mp ht).1
  have hcode : rowCodes[row]? = some rowCodes[row] := List.getElem?_eq_getElem inside
  obtain ⟨found, hfound, hplace⟩ := Outcome.getElem?_of_mapM_eq_ok tagged hcode
  obtain rfl : found = tag := Option.some_inj.mp (hfound.symm.trans ht)
  obtain ⟨place, hp, same⟩ := Option.map_eq_some_iff.mp (Outcome.eq_some_of_ofOption hplace)
  exact ⟨_, place, hcode, hp, same.symm⟩

variable {dense : Bool} {branches : List (String × ColumnType)} {columns : List ColumnData}
  {offsets : Option (List Int)} {vectors : List ColumnVector}

/-- Codes and offsets of a union that is laid out become targets. -/
theorem areTargets_ofColumns (laid : ofColumns branches columns = .ok vectors)
    (coded : codes.length = branches.length)
    (sparse : dense = false → ∀ column ∈ columns, column.length = rowCodes.length)
    (addressed : dense = true → ∃ targets, offsets = some targets ∧
      targets.length = rowCodes.length ∧
      ∀ (row place : Nat) (code : Int) (column : ColumnData), rowCodes[row]? = some code →
        codes.idxOf? code = some place → columns[place]? = some column →
        ∃ target : Nat, targets[row]? = some (target : Int) ∧ target < column.length) :
    AreTargets tags vectors (if dense then offsets else none) rowCodes.length := by
  have hrows : tags.length = rowCodes.length := Outcome.length_of_mapM_eq_ok tagged
  have hplaces : ∀ tag ∈ tags, ∃ place : Nat, tag = place ∧ place < vectors.length := by
    intro tag member
    obtain ⟨row, ht⟩ := List.mem_iff_getElem?.mp member
    obtain ⟨code, place, _, hplace, rfl⟩ := exists_code_of_tag tagged ht
    have inside : place < codes.length := (List.idxOf?_eq_some_iff.mp hplace).1
    exact ⟨place, rfl, by rwa [(ofColumns_eq_ok laid).1, ← coded]⟩
  -- Offsets are kept of dense unions only, so each mode has one half of the facts to show.
  cases dense with
  | false =>
    refine ⟨hrows, hplaces, fun _ branch member => rows_of_mem laid (sparse rfl) member, ?_, ?_⟩
    · intro targets contrary
      contradiction
    · intro targets contrary
      contradiction
  | true =>
    obtain ⟨known, rfl, length, designated⟩ := addressed rfl
    refine ⟨hrows, hplaces, fun contrary => by contradiction, ?_, ?_⟩
    · intro targets same
      exact Option.some_inj.mp same ▸ length
    · intro targets same row place branch ht hbranch
      obtain rfl : known = targets := Option.some_inj.mp same
      obtain ⟨code, place', hcode, hplace, equal⟩ := exists_code_of_tag tagged ht
      obtain rfl : place = place' := Int.ofNat.inj equal
      obtain ⟨field, column, _, hcolumn, made⟩ := exists_field_of_getElem? laid hbranch
      rw [rows_ofColumn made]
      exact designated row place code column hcode hplace hcolumn

end Union

end ColumnVector

namespace ColumnData

open ColumnVector

variable {type : ColumnType} {data : ColumnData}

/-- A column that is laid out has a vector. -/
theorem IsLaidOut.exists_vector (laid : data.IsLaidOut type) :
    ∃ vector, ofColumn type data = .ok vector := by
  induction laid with
  | leaf stored =>
    obtain ⟨flags, cells, made, _⟩ := exists_leaf_of_stores stored
    exact ⟨_, made⟩
  | list _ _ ih =>
    obtain ⟨child, hc⟩ := ih
    exact ⟨_, by rw [ofColumn, hc]; rfl⟩
  | map _ _ _ _ ihKey ihValue =>
    obtain ⟨keys, hk⟩ := ihKey
    obtain ⟨values, hv⟩ := ihValue
    exact ⟨_, by rw [ofColumn, hk, Outcome.ok_bind, hv]; rfl⟩
  | struct width _ _ ih =>
    obtain ⟨vectors, hv⟩ := exists_ofColumns width ih
    exact ⟨_, by rw [ofColumn, hv]; rfl⟩
  | union width _ known _ _ _ ih =>
    obtain ⟨tags, ht⟩ := exists_tags known
    obtain ⟨vectors, hv⟩ := exists_ofColumns width ih
    exact ⟨_, by rw [ofColumn, ht, Outcome.ok_bind, hv]; rfl⟩

/-- The vector of a column that is laid out is sound for the declared type. -/
theorem IsLaidOut.isSound (laid : data.IsLaidOut type) {vector : ColumnVector}
    {declared : NativeType} (made : ofColumn type data = .ok vector)
    (accepted : NativeType.ofColumn type = .ok declared) : vector.IsSound declared := by
  induction laid generalizing vector declared with
  | leaf stored => exact isSound_of_stores stored made accepted
  | list slices _ ih =>
    have exact := isExact_ofColumn made
    obtain ⟨child, hchild, made⟩ := Outcome.bind_eq_ok made
    obtain ⟨element, helement, accepted⟩ := Outcome.bind_eq_ok accepted
    cases made
    cases accepted
    refine .list exact rfl rfl ?_ (ih hchild helement)
    rw [RowFlags.length_isNull_ofPresent, rows_ofColumn hchild]
    exact areSlices_of_areBounds slices
  | map slices paired _ _ ihKey ihValue =>
    have exact := isExact_ofColumn made
    obtain ⟨keys, hkeys, made⟩ := Outcome.bind_eq_ok made
    obtain ⟨values, hvalues, made⟩ := Outcome.bind_eq_ok made
    obtain ⟨key, hkey, accepted⟩ := Outcome.bind_eq_ok accepted
    obtain ⟨value, hvalue, accepted⟩ := Outcome.bind_eq_ok accepted
    cases made
    cases accepted
    refine .map exact rfl rfl ?_ ?_ (ihKey hkeys hkey) (ihValue hvalues hvalue)
    · rw [RowFlags.length_isNull_ofPresent, rows_ofColumn hkeys]
      exact areSlices_of_areBounds slices
    · rw [rows_ofColumn hkeys, rows_ofColumn hvalues, paired]
  | struct _ rows _ ih =>
    have exact := isExact_ofColumn made
    obtain ⟨vectors, hvectors, made⟩ := Outcome.bind_eq_ok made
    obtain ⟨natives, hnatives, accepted⟩ := Outcome.bind_eq_ok accepted
    cases made
    cases accepted
    refine .struct exact rfl (width_ofColumns hvectors hnatives) (fun field member => ?_) ?_
    · rw [RowFlags.length_isNull_ofPresent]
      exact rows_of_mem hvectors rows member
    · exact fun _ _ _ => isSound_of_getElem? hvectors hnatives ih
  | union _ coded _ sparse addressed _ ih =>
    have exact := isExact_ofColumn made
    obtain ⟨tags, htags, made⟩ := Outcome.bind_eq_ok made
    obtain ⟨vectors, hvectors, made⟩ := Outcome.bind_eq_ok made
    obtain ⟨natives, hnatives, accepted⟩ := Outcome.bind_eq_ok accepted
    cases made
    cases accepted
    refine .union exact rfl (width_ofColumns hvectors hnatives) ?_ ?_
    · rw [RowFlags.allPresent, List.length_replicate]
      exact areTargets_ofColumns htags hvectors coded sparse addressed
    · exact fun _ _ _ => isSound_of_getElem? hvectors hnatives ih

/-- The vector of a column that is laid out has the rows of the column at every depth. -/
theorem IsLaidOut.hasRowsOf (laid : data.IsLaidOut type) {vector : ColumnVector}
    (made : ofColumn type data = .ok vector) : vector.HasRowsOf data := by
  induction laid generalizing vector with
  | @leaf type data stored =>
    obtain ⟨flags, cells, same, _⟩ := exists_leaf_of_stores stored
    obtain rfl : ColumnVector.leaf flags cells = vector := Except.ok.inj (same.symm.trans made)
    have plain : data.parts = [] := by cases data <;> cases type <;> first | contradiction | rfl
    exact .node (rows_ofColumn made) (by rw [plain]; rfl) (by simp [ColumnVector.parts])
  | list _ _ ih =>
    have rows := rows_ofColumn made
    obtain ⟨child, hchild, made⟩ := Outcome.bind_eq_ok made
    cases made
    refine .node rows rfl fun place part array hp ha => ?_
    rcases place with _ | place
    · cases hp; cases ha
      exact ih hchild
    · cases hp
  | map _ _ _ _ ihKey ihValue =>
    have rows := rows_ofColumn made
    obtain ⟨keys, hkeys, made⟩ := Outcome.bind_eq_ok made
    obtain ⟨values, hvalues, made⟩ := Outcome.bind_eq_ok made
    cases made
    refine .node rows rfl fun place part array hp ha => ?_
    rcases place with _ | _ | place
    · cases hp; cases ha
      exact ihKey hkeys
    · cases hp; cases ha
      exact ihValue hvalues
    · cases hp
  | struct width _ _ ih =>
    have rows := rows_ofColumn made
    obtain ⟨vectors, hvectors, made⟩ := Outcome.bind_eq_ok made
    cases made
    exact .node rows ((ofColumns_eq_ok hvectors).1.trans width.symm) fun _ _ _ =>
      hasRowsOf_of_getElem? hvectors ih
  | union width _ _ _ _ _ ih =>
    have rows := rows_ofColumn made
    obtain ⟨tags, htags, made⟩ := Outcome.bind_eq_ok made
    obtain ⟨vectors, hvectors, made⟩ := Outcome.bind_eq_ok made
    cases made
    exact .node rows ((ofColumns_eq_ok hvectors).1.trans width.symm) fun _ _ _ =>
      hasRowsOf_of_getElem? hvectors ih

end ColumnData

/-- A column that is laid out for an accepted type has a vector. The vector has the rows of the
column at every depth and is sound for the declared type, so each of the rows is read without a
position that designates nothing and without parts that do not fit together. Cells in their natural
layout are laid out. -/
theorem exists_sound_vector {type : ColumnType} {declared : NativeType}
    (accepted : NativeType.ofColumn type = .ok declared) :
    (∀ data : ColumnData, data.IsLaidOut type →
      ∃ vector, ColumnVector.ofColumn type data = .ok vector ∧ vector.HasRowsOf data ∧
        vector.IsSound declared ∧
        ∀ (policy : TextPolicy) (unified : Option UnifiedType) (row : Nat), row < data.length →
          (vector.cell policy declared unified row).Fits) ∧
    (type.IsOfCells → ∀ cells : List Value, (ColumnData.ofCells type cells).IsLaidOut type ∧
      (ColumnData.ofCells type cells).length = cells.length) := by
  constructor
  · intro data laid
    obtain ⟨vector, made⟩ := laid.exists_vector
    have sound := laid.isSound made accepted
    refine ⟨vector, made, laid.hasRowsOf made, sound, fun policy unified row inside => ?_⟩
    exact sound.fitsAt policy unified row (ColumnVector.rows_ofColumn made ▸ inside)
  · intro whole cells
    exact ⟨ColumnData.isLaidOut_ofCells type whole cells, ColumnData.length_ofCells type cells⟩

/-- Prices under names, and for each row what it was seen as, a day or a count, and where that is
found again. -/
def stockType : ColumnType :=
  .struct [("prices", .map (.text false) (.decimal 6 2)),
    ("seen", .union false [("day", .date), ("count", .integer true 32)] [4, 1]),
    ("again", .union true [("day", .date), ("count", .integer true 32)] [4, 1])]

/-- Three rows: two prices, none at all, and an empty dictionary. -/
def stockData : ColumnData :=
  .struct [true, true, true]
    [.map [true, false, true] [0, 2, 2, 2] (.bytes [some [0x61], some [0x62]])
      (.decimals [some (.finite false 150 (-2)), none]),
    .union [1, 4, 1] [.integers [none, some 19000, none], .integers [some 7, none, some 9]] none,
    .union [1, 4, 1] [.integers [some 19000], .integers [some 7, some 9]] (some [0, 0, 1])]

/-- The stock is laid out for its type. -/
theorem isLaidOut_stockData : stockData.IsLaidOut stockType := by
  refine .struct rfl (by simp [ColumnData.length]) ?_
  intro place field column hf hc
  rcases place with _ | _ | _ | place
  · cases hf; cases hc
    refine .map ⟨rfl, fun row inside => ?_⟩ rfl (.leaf trivial) (.leaf trivial)
    rcases row with _ | _ | _ | row
    · exact ⟨0, 2, ⟨rfl, rfl⟩, by decide⟩
    · exact ⟨2, 0, ⟨rfl, rfl⟩, by decide⟩
    · exact ⟨2, 0, ⟨rfl, rfl⟩, by decide⟩
    · exact absurd inside (by simp)
  · cases hf; cases hc
    refine .union rfl rfl (by decide) (fun _ => by simp [ColumnData.length]) (by simp) ?_
    intro place branch column hf hc
    rcases place with _ | _ | place
    · cases hf; cases hc
      exact .leaf trivial
    · cases hf; cases hc
      exact .leaf trivial
    · cases hf
  · cases hf; cases hc
    refine .union rfl rfl (by decide) (by simp) (fun _ => ⟨_, rfl, rfl, ?_⟩) ?_
    · intro row place code column hcode hplace hcolumn
      rcases row with _ | _ | _ | row
      · cases hcode; cases hplace; cases hcolumn
        exact ⟨0, rfl, by decide⟩
      · cases hcode; cases hplace; cases hcolumn
        exact ⟨0, rfl, by decide⟩
      · cases hcode; cases hplace; cases hcolumn
        exact ⟨1, rfl, by decide⟩
      · cases hcode
    · intro place branch column hf hc
      rcases place with _ | _ | place
      · cases hf; cases hc
        exact .leaf trivial
      · cases hf; cases hc
        exact .leaf trivial
      · cases hf
  · cases hf

/-- The second row of the stock is read, its missing prices and its day. -/
theorem exists_sound_vector_stock :
    ∃ declared, NativeType.ofColumn stockType = .ok declared ∧ stockData.IsLaidOut stockType ∧
      ∃ vector, ColumnVector.ofColumn stockType stockData = .ok vector ∧
        vector.IsSound declared ∧ 1 < stockData.length ∧
        (vector.cell .standard declared none 1).Fits := by
  have second : 1 < stockData.length := by decide
  obtain ⟨vector, made, _, sound, fits⟩ :=
    (exists_sound_vector rfl).1 stockData isLaidOut_stockData
  exact ⟨_, rfl, isLaidOut_stockData, vector, made, sound, second, fits .standard none 1 second⟩

end OrcRows
