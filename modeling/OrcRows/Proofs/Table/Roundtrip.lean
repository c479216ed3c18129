import OrcRows.Proofs.Table.Parts

/-!
# A column laid out and read again

A column is laid out as vectors by recursion on its type; cells are read off the vectors by
recursion on the declared type. One after the other they give back what the column stands for, row
by row and at every depth.
-/

namespace OrcRows

/-- A type without parts is flat. -/
theorem ColumnType.IsLeaf.isFlat {type : ColumnType} (h : type.IsLeaf) : type.IsFlat := by
  cases type with
  | list | map | struct | union => exact h.elim
  | _ => trivial

namespace ColumnData

/-- A list is read as the values of its slice. -/
theorem IsReadAs.list {element : ColumnType} {present : List Bool} {bounds : List Int}
    {child : ColumnData} {row first : Nat} {values : List Value} (leaf : element.IsLeaf)
    (there : present[row]? = some true) (slice : IsSlice bounds row first values.length)
    (h : ∀ (place : Nat) (value : Value), values[place]? = some value →
      child.IsReadAs element (first + place) value) :
    IsReadAs (.list element) (.list present bounds child) row (.list values) := by
  intro declared vector accepted laid
  obtain ⟨native, hn, accepted⟩ := Outcome.bind_eq_ok accepted
  injection accepted with same
  obtain ⟨childVector, hc, laid⟩ := Outcome.bind_eq_ok laid
  injection laid with same'
  subst same same'
  have hflags : (ColumnVector.list (.ofPresent present) bounds.dropLast (lengthsBetween bounds)
    (some childVector)).flags.nullAt row = .ok false := RowFlags.nullAt_ofPresent there
  have hchild : (NativeType.list native).child 0 = .ok native := rfl
  have hvalues := elements_ofColumn .standard "list" native first values leaf hc
    fun place value hp => h place value hp native childVector hn hc
  rw [ColumnVector.cell_list hflags rfl, listCell, hchild, Outcome.ok_bind,
    slice_ofPresent slice, Outcome.ok_bind, Option.bind_none, hvalues]
  rfl

/-- A map is read as the dictionary of the pairs of its slice. -/
theorem IsReadAs.map {key value : ColumnType} {present : List Bool} {bounds : List Int}
    {keys values : ColumnData} {row first : Nat} {pairs : List (Value × Value)}
    (keyLeaf : key.IsLeaf) (valueLeaf : value.IsLeaf) (there : present[row]? = some true)
    (slice : IsSlice bounds row first pairs.length)
    (kinds : ∀ pair ∈ pairs, Value.IsCell key pair.1)
    (hk : ∀ (place : Nat) (pair : Value × Value), pairs[place]? = some pair →
      keys.IsReadAs key (first + place) pair.1)
    (hv : ∀ (place : Nat) (pair : Value × Value), pairs[place]? = some pair →
      values.IsReadAs value (first + place) pair.2) :
    IsReadAs (.map key value) (.map present bounds keys values) row
      (.map (Value.dictionary pairs)) := by
  intro declared vector accepted laid
  obtain ⟨keyNative, hkn, accepted⟩ := Outcome.bind_eq_ok accepted
  obtain ⟨valueNative, hvn, accepted⟩ := Outcome.bind_eq_ok accepted
  injection accepted with same
  obtain ⟨keyVector, hkv, laid⟩ := Outcome.bind_eq_ok laid
  obtain ⟨valueVector, hvv, laid⟩ := Outcome.bind_eq_ok laid
  injection laid with same'
  subst same same'
  obtain ⟨keyFlags, keyCells, rfl⟩ := ColumnVector.exists_leaf_of_isLeaf keyLeaf hkv
  obtain ⟨valueFlags, valueCells, rfl⟩ := ColumnVector.exists_leaf_of_isLeaf valueLeaf hvv
  have hflags : (ColumnVector.map (.ofPresent present) bounds.dropLast (lengthsBetween bounds)
    (some (.leaf keyFlags keyCells)) (some (.leaf valueFlags valueCells))).flags.nullAt row =
      .ok false := RowFlags.nullAt_ofPresent there
  have hkey : (NativeType.map keyNative valueNative).child 0 = .ok keyNative := rfl
  have hvalue : (NativeType.map keyNative valueNative).child 1 = .ok valueNative := rfl
  have hkeys := elements_ofColumn .standard "map" keyNative first (pairs.map (·.1)) keyLeaf hkv
    fun place value hp => by
      rw [List.getElem?_map, Option.map_eq_some_iff] at hp
      obtain ⟨pair, hpair, rfl⟩ := hp
      exact hk place pair hpair _ _ hkn hkv
  have hvalues := elements_ofColumn .standard "map" valueNative first (pairs.map (·.2)) valueLeaf
    hvv fun place value hp => by
      rw [List.getElem?_map, Option.map_eq_some_iff] at hp
      obtain ⟨pair, hpair, rfl⟩ := hp
      exact hv place pair hpair _ _ hvn hvv
  have hentries : Value.collectEntries pairs = Value.dictionary pairs := by
    apply Value.collectEntries_eq_dictionary
    apply Value.areKeys_of_isCell
    intro entryKey hm
    obtain ⟨pair, hpair, rfl⟩ := List.mem_map.mp hm
    exact kinds pair hpair
  rw [List.length_map] at hkeys hvalues
  rw [ColumnVector.cell_map hflags rfl, mapCell, slice_ofPresent slice, Outcome.ok_bind, hkey,
    Outcome.ok_bind, Option.bind_none, hkeys, Outcome.ok_bind, hvalue, Outcome.ok_bind,
    Option.bind_none, hvalues, Outcome.ok_bind, ← List.zip_of_prod rfl rfl, hentries]
  rfl

/-- A struct is read as the record of the values of its fields. -/
theorem IsReadAs.struct {fields : List (String × ColumnType)} {present : List Bool}
    {columns : List ColumnData} {row : Nat} {values : List Value}
    (there : present[row]? = some true) (width : values.length = fields.length)
    (h : ∀ (place : Nat) (field : String × ColumnType) (column : ColumnData) (value : Value),
      fields[place]? = some field → columns[place]? = some column → values[place]? = some value →
      column.IsReadAs field.2 row value) :
    IsReadAs (.struct fields) (.struct present columns) row (.row values none) := by
  intro declared vector accepted laid
  obtain ⟨natives, hn, accepted⟩ := Outcome.bind_eq_ok accepted
  injection accepted with same
  obtain ⟨vectors, hv, laid⟩ := Outcome.bind_eq_ok laid
  injection laid with same'
  subst same same'
  obtain ⟨hnatives, hnative⟩ := NativeType.ofColumns_eq_ok hn
  obtain ⟨hvectors, hcolumns, hvector⟩ := ColumnVector.ofColumns_eq_ok hv
  have hflags : (ColumnVector.struct (.ofPresent present) vectors).flags.nullAt row = .ok false :=
    RowFlags.nullAt_ofPresent there
  have hle : vectors.length ≤ (NativeType.struct natives).children.length := by
    rw [NativeType.struct, NativeType.children, List.length_map, hvectors, hnatives]
  have hcells : ColumnVector.fieldCells .standard vectors (NativeType.struct natives).children []
      row = .ok values := by
    rw [NativeType.struct, NativeType.children]
    apply ColumnVector.fieldCells_eq_ok (by omega) (by rw [List.length_map]; omega)
    intro place vector native value hpv hpn hpx
    have hplace : place < fields.length := by
      have := (List.getElem?_eq_some_iff.mp hpv).1
      omega
    have hfield : fields[place]? = some fields[place] := List.getElem?_eq_getElem hplace
    have hcolumn : columns[place]? = some columns[place] := List.getElem?_eq_getElem (by omega)
    obtain ⟨native', hpn', haccepted⟩ := hnative place _ hfield
    obtain ⟨vector', hpv', hlaid⟩ := hvector place _ _ hfield hcolumn
    rw [List.getElem?_map, hpn', Option.map_some, Option.some_inj] at hpn
    rw [hpv', Option.some_inj] at hpv
    subst hpn hpv
    exact h place _ _ value hfield hcolumn hpx _ _ haccepted hlaid
  rw [ColumnVector.cell_struct hflags rfl hle, Option.map_none, Option.getD_none, hcells]
  rfl

/-- A union is read as the value of the branch that its code names. -/
theorem IsReadAs.union {dense : Bool} {branches : List (String × ColumnType)}
    {codes rowCodes : List Int} {columns : List ColumnData} {offsets : Option (List Int)}
    {row place target : Nat} {code : Int} {branch : String × ColumnType} {column : ColumnData}
    {native : NativeType} {value : Value} (coded : rowCodes[row]? = some code)
    (named : codes.idxOf? code = some place) (branchType : branches[place]? = some branch)
    (branchData : columns[place]? = some column)
    (accepted : NativeType.ofColumn branch.2 = .ok native)
    (addressed : if dense then ∃ rows, offsets = some rows ∧ rows[row]? = some (target : Int)
      else target = row)
    (h : column.IsReadAs branch.2 target value) :
    IsReadAs (.union dense branches codes) (.union rowCodes columns offsets) row
      (.union place native value) := by
  intro declared vector accepted' laid
  obtain ⟨natives, hn, accepted'⟩ := Outcome.bind_eq_ok accepted'
  injection accepted' with same
  obtain ⟨tags, ht, laid⟩ := Outcome.bind_eq_ok laid
  obtain ⟨vectors, hv, laid⟩ := Outcome.bind_eq_ok laid
  injection laid with same'
  subst same same'
  obtain ⟨hnatives, hnative⟩ := NativeType.ofColumns_eq_ok hn
  obtain ⟨hvectors, hcolumns, hvector⟩ := ColumnVector.ofColumns_eq_ok hv
  obtain ⟨native', hpn, haccepted⟩ := hnative place branch branchType
  obtain ⟨vector, hpv, hlaid⟩ := hvector place branch column branchType branchData
  have hsame : native' = native := Except.ok.inj (haccepted.symm.trans accepted)
  subst hsame
  obtain ⟨tag, htag, hcode⟩ := Outcome.getElem?_of_mapM_eq_ok ht coded
  rw [named, Option.map_some, Outcome.ofOption_some] at hcode
  injection hcode with htagplace
  subst htagplace
  have hindex : ∀ row : Int, (RowFlags.allPresent rowCodes.length).index row = row := fun _ => rfl
  have htags : Position.get? tags ((RowFlags.allPresent rowCodes.length).index row) =
      some (place : Int) := by
    rw [hindex, Position.get?_ofNat, htag]
  have hflags : (ColumnVector.union (.allPresent rowCodes.length) tags vectors
    (if dense then offsets else none)).flags.nullAt row = .ok false := rfl
  have hwithin : place < vectors.length := (List.getElem?_eq_some_iff.mp hpv).1
  have hbranch : (NativeType.union (natives.map (·.2))).children[place]? = some native' := by
    rw [NativeType.union, NativeType.children, List.getElem?_map, hpn]
    rfl
  have hrow : ColumnVector.branchRow (.allPresent rowCodes.length)
      (if dense then offsets else none) row = .ok (target : Int) := by
    cases dense with
    | false => exact congrArg (fun row : Nat => Except.ok (row : Int)) addressed.symm
    | true =>
      obtain ⟨rows, hrows, htarget⟩ := addressed
      rw [if_pos rfl, hrows, ColumnVector.branchRow, hindex, Position.get?_ofNat, htarget]
      rfl
  rw [ColumnVector.cell_union hflags rfl htags hwithin hbranch hrow,
    ColumnVector.branchCell_eq hpv, h native' vector haccepted hlaid]
  rfl

variable {type : ColumnType} {data : ColumnData} {row : Nat} {value : Value}

/-- A row of a column is read as what the column stands for there. -/
theorem Denotes.isReadAs (denotes : data.Denotes type row value) (flat : type.IsFlat)
    (valid : data.Valid type) : data.IsReadAs type row value := by
  induction denotes with
  | missing absent => exact isReadAs_null absent
  | boolean found => exact (Denotes.boolean found).isReadAs_of_isLeaf valid trivial
  | integer found => exact (Denotes.integer found).isReadAs_of_isLeaf valid trivial
  | floating found => exact (Denotes.floating found).isReadAs_of_isLeaf valid trivial
  | text found => exact (Denotes.text found).isReadAs_of_isLeaf valid trivial
  | binary found => exact (Denotes.binary found).isReadAs_of_isLeaf valid trivial
  | date found => exact (Denotes.date found).isReadAs_of_isLeaf valid trivial
  | timestamp found floor => exact (Denotes.timestamp found floor).isReadAs_of_isLeaf valid trivial
  | decimal found => exact (Denotes.decimal found).isReadAs_of_isLeaf valid trivial
  | list there slice elements ih =>
    cases valid with
    | list slices inner =>
      exact .list flat there slice fun place value hp => ih place value hp flat.isFlat inner
  | map there slice entryKeys entryValues ihKeys ihValues =>
    cases valid with
    | map slices paired innerKey innerValue =>
      refine .map flat.1 flat.2 there slice ?_
        (fun place pair hp => ihKeys place pair hp flat.1.isFlat innerKey)
        fun place pair hp => ihValues place pair hp flat.2.isFlat innerValue
      intro pair hm
      obtain ⟨place, hp⟩ := List.mem_iff_getElem?.mp hm
      exact (entryKeys place pair hp).isCell flat.1 innerKey
  | struct there width parts ih =>
    cases valid with
    | struct columnsWidth rows inner =>
      exact .struct there width fun place field column value hf hc hv =>
        ih place field column value hf hc hv (flat.getElem? hf) (inner place field column hf hc)
  | union coded named branchType branchData accepted addressed part ih =>
    cases valid with
    | union columnsWidth codesWidth known inner rows =>
      exact .union coded named branchType branchData accepted addressed
        (ih (flat.getElem? branchType) (inner _ _ _ branchType branchData))

end ColumnData

end OrcRows
