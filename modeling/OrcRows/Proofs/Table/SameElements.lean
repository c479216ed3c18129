import OrcRows.Proofs.Cell.Copies
import OrcRows.Proofs.Cell.DeepMaps
import OrcRows.Proofs.Table.Shows

/-!
# Rows that show the same element

Two rows that show the same element are read alike, wherever they stand and however the arrays
around them are cut: the offsets of lists and maps, the fillers of missing cells and the flags of
the vectors may differ.
-/

namespace OrcRows

open Outcome

/-- Rows that show the same element of a type are read alike. -/
def ColumnType.IsReadAlike (type : ColumnType) : Prop :=
  ∀ (vector vector' : ColumnVector) (row row' : Nat) (element : Element),
    vector.Shows type row element → vector'.Shows type row' element →
    ∀ (policy : TextPolicy) (declared : NativeType) (unified : Option UnifiedType),
      (vector.cell policy declared unified row).Alike (vector'.cell policy declared unified row')

section Alike

variable {policy : TextPolicy} {unified : Option UnifiedType}

/-- Rows that are read alike one by one are read alike together. -/
theorem alike_readRows {read read' : Int → Outcome Value} {first first' count : Nat}
    (h : ∀ place, place < count →
      (read ((first + place : Nat) : Int)).Alike (read' ((first' + place : Nat) : Int))) :
    (readRows read first count).Alike (readRows read' first' count) := by
  induction count generalizing first first' with
  | zero => exact .refl _
  | succ count ih =>
    have hrest : (readRows read ((first + 1 : Nat) : Int) count).Alike
        (readRows read' ((first' + 1 : Nat) : Int) count) := by
      refine ih fun place inside => ?_
      have := h (place + 1) (by omega)
      rwa [← Nat.add_assoc, Nat.add_right_comm, ← Nat.add_assoc, Nat.add_right_comm first'] at this
    exact (h 0 (Nat.succ_pos count)).bind fun value => hrest.bind fun rest => .refl _

namespace ColumnVector

variable {type : ColumnType} {vector vector' : ColumnVector} {data data' : ColumnData}

/-- The vector of a column is a leaf exactly if the column has no parts. -/
theorem isLeafChild_iff (laid : ofColumn type data = .ok vector) :
    IsLeafChild (some vector) ↔ type.IsLeaf := by
  constructor
  · intro leaf
    rw [ofColumn.eq_def] at laid
    split at laid
    case h_1 | h_14 => contradiction
    case h_10 | h_12 =>
      obtain ⟨_, _, laid⟩ := bind_eq_ok laid
      cases laid
      exact leaf.elim
    case h_11 | h_13 =>
      obtain ⟨_, _, laid⟩ := bind_eq_ok laid
      obtain ⟨_, _, laid⟩ := bind_eq_ok laid
      cases laid
      exact leaf.elim
    all_goals trivial
  · intro leaf
    obtain ⟨flags, cells, rfl⟩ := exists_leaf_of_isLeaf leaf laid
    trivial

/-- Slices of columns of one type whose rows are read alike are read alike. -/
theorem alike_elements (laid : ofColumn type data = .ok vector)
    (laid' : ofColumn type data' = .ok vector') (container : String) (declared : NativeType)
    {first first' count : Nat}
    (h : ∀ place, place < count →
      (vector.cell policy declared unified ((first + place : Nat) : Int)).Alike
        (vector'.cell policy declared unified ((first' + place : Nat) : Int))) :
    (elements policy container vector declared unified ((first : Int), (count : Int))).Alike
      (elements policy container vector' declared unified ((first' : Int), (count : Int))) := by
  by_cases leaf : type.IsLeaf
  · obtain ⟨flags, cells, rfl⟩ := exists_leaf_of_isLeaf leaf laid
    obtain ⟨flags', cells', rfl⟩ := exists_leaf_of_isLeaf leaf laid'
    rw [elements, elements, Int.toNat_natCast]
    refine alike_readRows fun place inside => ?_
    rw [elementCell_eq_cell, elementCell_eq_cell]
    exact h place inside
  · rw [elements_of_not_isLeafChild (mt (isLeafChild_iff laid).mp leaf),
      elements_of_not_isLeafChild (mt (isLeafChild_iff laid').mp leaf)]
    exact (Alike.refl _).bind fun fact => alike_report ..

/-- What is read of rows that are there is like what is read of both vectors. -/
theorem Shows.alike_cell {row row' : Nat} {element : Element} {declared : NativeType}
    (h : vector.Shows type row element) (h' : vector'.Shows type row' element)
    (there : element ≠ .missing → vector.flags.nullAt row = .ok false →
      vector'.flags.nullAt row' = .ok false →
      (vector.cell policy declared unified row).Alike (vector'.cell policy declared unified row')) :
    (vector.cell policy declared unified row).Alike
      (vector'.cell policy declared unified row') := by
  rcases h.nullAt with ⟨same, hnull⟩ | ⟨differ, hnull⟩
  · rcases h'.nullAt with ⟨_, hnull'⟩ | ⟨differ, _⟩
    · rw [cell_null hnull, cell_null hnull']
      exact .refl _
    · exact absurd same differ
  · rcases h'.nullAt with ⟨same, _⟩ | ⟨_, hnull'⟩
    · exact absurd same differ
    · exact there differ hnull hnull'

end ColumnVector

end Alike

namespace ColumnType

open ColumnVector

variable {type : ColumnType}

/-- Lists are read alike if their elements are. -/
theorem IsReadAlike.list (h : type.IsReadAlike) : (list type).IsReadAlike := by
  intro vector vector' row row' element shown shown' policy declared unified
  refine shown.alike_cell shown' fun there hnull hnull' => ?_
  obtain ⟨flags, offsets, lengths, child, first, members, rfl, rfl, hslice, ⟨_, laid⟩, hm⟩ :=
    shown.exists_list there
  obtain ⟨flags', offsets', lengths', child', first', members', rfl, same, hslice', ⟨_, laid'⟩,
    hm'⟩ := shown'.exists_list there
  cases same
  rw [cell.eq_def, cell.eq_def, hnull, hnull']
  simp only [ok_bind, Bool.false_eq_true, if_false]
  refine (alike_checkShape rfl declared).bind fun _ => (Alike.refl _).bind fun inner => ?_
  rw [hslice, hslice', ok_bind, ok_bind]
  refine (alike_elements laid laid' "list" inner fun place inside => ?_).bind fun _ => .refl _
  have hmember := List.getElem?_eq_getElem inside
  exact h _ _ _ _ _ (hm place _ hmember) (hm' place _ hmember) policy inner _

/-- Maps are read alike if their keys and their values are. -/
theorem IsReadAlike.map {key value : ColumnType} (hk : key.IsReadAlike) (hv : value.IsReadAlike) :
    (map key value).IsReadAlike := by
  intro vector vector' row row' element shown shown' policy declared unified
  refine shown.alike_cell shown' fun there hnull hnull' => ?_
  obtain ⟨flags, offsets, lengths, keys, values, first, keyElements, valueElements, rfl, rfl,
    hlength, hslice, ⟨_, laidKeys⟩, ⟨_, laidValues⟩, hks, hvs⟩ := shown.exists_map there
  obtain ⟨flags', offsets', lengths', keys', values', first', keyElements', valueElements', rfl,
    same, _, hslice', ⟨_, laidKeys'⟩, ⟨_, laidValues'⟩, hks', hvs'⟩ := shown'.exists_map there
  cases same
  rw [cell.eq_def, cell.eq_def, hnull, hnull']
  simp only [ok_bind, Bool.false_eq_true, if_false]
  refine (alike_checkShape rfl declared).bind fun _ => ?_
  by_cases leaves : key.IsLeaf ∧ value.IsLeaf
  · have hkeys : ∀ (inner : NativeType) (type : Option UnifiedType), (elements policy "map" keys
        inner type ((first : Int), (keyElements.length : Int))).Alike (elements policy "map" keys'
        inner type ((first' : Int), (keyElements.length : Int))) := by
      refine fun inner type => alike_elements laidKeys laidKeys' "map" inner fun place inside => ?_
      have hmember := List.getElem?_eq_getElem inside
      exact hk _ _ _ _ _ (hks place _ hmember) (hks' place _ hmember) policy inner type
    have hvalues : ∀ (inner : NativeType) (type : Option UnifiedType), (elements policy "map" values
        inner type ((first : Int), (keyElements.length : Int))).Alike (elements policy "map" values'
        inner type ((first' : Int), (keyElements.length : Int))) := by
      refine fun inner type => alike_elements laidValues laidValues' "map" inner fun place inside =>
        ?_
      have hmember := List.getElem?_eq_getElem (hlength ▸ inside)
      exact hv _ _ _ _ _ (hvs place _ hmember) (hvs' place _ hmember) policy inner type
    obtain ⟨keyFlags, keyCells, rfl⟩ := exists_leaf_of_isLeaf leaves.1 laidKeys
    obtain ⟨keyFlags', keyCells', rfl⟩ := exists_leaf_of_isLeaf leaves.1 laidKeys'
    obtain ⟨valueFlags, valueCells, rfl⟩ := exists_leaf_of_isLeaf leaves.2 laidValues
    obtain ⟨valueFlags', valueCells', rfl⟩ := exists_leaf_of_isLeaf leaves.2 laidValues'
    simp only [mapCell, hslice, hslice', ok_bind]
    refine (Alike.refl _).bind fun keyType => (hkeys keyType _).bind fun keyList => ?_
    exact (Alike.refl _).bind fun valueType => (hvalues valueType _).bind fun _ => .refl _
  · have deep : ¬ (IsLeafChild (some keys) ∧ IsLeafChild (some values)) := fun both =>
      leaves ⟨(isLeafChild_iff laidKeys).mp both.1, (isLeafChild_iff laidValues).mp both.2⟩
    have deep' : ¬ (IsLeafChild (some keys') ∧ IsLeafChild (some values')) := fun both =>
      leaves ⟨(isLeafChild_iff laidKeys').mp both.1, (isLeafChild_iff laidValues').mp both.2⟩
    simp only [mapCell_of_deep deep, mapCell_of_deep deep']
    exact (Alike.refl _).bind fun fact => alike_report ..

/-- There is a vector for every field. -/
theorem length_eq_of_allShow {vectors : List ColumnVector} {fields : List (String × ColumnType)}
    {elements : List Element} {row : Nat} (h : AllShow row vectors fields elements) :
    vectors.length = fields.length := by
  induction h with
  | nil => rfl
  | cons _ _ ih => rw [List.length_cons, List.length_cons, ih]

/-- Fields are read alike one by one. -/
theorem alike_fieldCells {fields : List (String × ColumnType)}
    (h : ∀ field ∈ fields, field.2.IsReadAlike) {vectors vectors' : List ColumnVector}
    {elements : List Element} {row row' : Nat} (shown : AllShow row vectors fields elements)
    (shown' : AllShow row' vectors' fields elements) (policy : TextPolicy)
    (declared : List NativeType) (types : List UnifiedType) :
    (fieldCells policy vectors declared types row).Alike
      (fieldCells policy vectors' declared types row') := by
  induction shown generalizing vectors' declared types with
  | nil =>
    cases shown' with
    | nil =>
      rw [fieldCells.eq_def, fieldCells.eq_def]
      exact .refl _
  | cons first rest ih =>
    cases shown' with
    | cons first' rest' =>
      obtain ⟨hfield, hfields⟩ := List.forall_mem_cons.mp h
      cases declared with
      | nil =>
        rw [fieldCells.eq_def, fieldCells.eq_def]
        exact .refl _
      | cons native declared =>
        rw [fieldCells_cons, fieldCells_cons]
        refine (hfield _ _ _ _ _ first first' policy native types.head?).bind fun value => ?_
        exact (ih hfields rest' declared types.tail).bind fun values => .refl _

/-- Structs are read alike if their fields are. -/
theorem IsReadAlike.struct {fields : List (String × ColumnType)}
    (h : ∀ field ∈ fields, field.2.IsReadAlike) : (struct fields).IsReadAlike := by
  intro vector vector' row row' element shown shown' policy declared unified
  refine shown.alike_cell shown' fun there hnull hnull' => ?_
  obtain ⟨flags, vectors, members, rfl, rfl, hm⟩ := shown.exists_struct there
  obtain ⟨flags', vectors', members', rfl, same, hm'⟩ := shown'.exists_struct there
  cases same
  have hlength := (length_eq_of_allShow hm).trans (length_eq_of_allShow hm').symm
  rw [cell.eq_def, cell.eq_def, hnull, hnull']
  simp only [ok_bind, Bool.false_eq_true, if_false, hlength]
  refine (alike_checkShape rfl declared).bind fun _ => ?_
  split
  · exact alike_report ..
  · exact (alike_fieldCells h hm hm' policy _ _).bind fun values => .refl _

/-- Unions are read alike if their branches are. -/
theorem IsReadAlike.union {dense : Bool} {branches : List (String × ColumnType)} {codes : List Int}
    (h : ∀ branch ∈ branches, branch.2.IsReadAlike) :
    (union dense branches codes).IsReadAlike := by
  intro vector vector' row row' element shown shown' policy declared unified
  refine shown.alike_cell shown' fun there hnull hnull' => ?_
  obtain ⟨flags, tags, vectors, offsets, place, target, value, branch, inner, rfl, rfl, htag,
    htarget, hlength, hb, hi, hinner⟩ := shown.exists_union
  obtain ⟨flags', tags', vectors', offsets', place', target', value', branch', inner', rfl, same,
    htag', htarget', hlength', hb', hi', hinner'⟩ := shown'.exists_union
  cases same
  cases hb.symm.trans hb'
  rw [cell.eq_def, cell.eq_def, hnull, hnull']
  simp only [ok_bind, Bool.false_eq_true, if_false, htag, htag', htarget, htarget', hlength,
    hlength', ofOption_some]
  refine (alike_checkShape rfl declared).bind fun _ => ?_
  refine (alike_branchOf _ _ _).bind_of_eq fun found hfound => (Alike.refl _).bind fun native => ?_
  obtain rfl : place = found := by exact_mod_cast (branchOf_eq_ok hfound).1
  rw [branchCell_eq hi, branchCell_eq hi']
  have hread := h branch (List.mem_of_getElem? hb) _ _ _ _ _ hinner hinner' policy native none
  exact hread.bind fun value => .refl _

end ColumnType

/-- Storage made from cells has the same entries wherever the same cells are there. -/
def LeafCells.IsMadeByCell {α : Type} (store : List (Option α) → LeafCells) : Prop :=
  ∀ (cells cells' : List (Option α)) (row row' : Nat) (stored : α),
    cells[row]? = some (some stored) → cells'[row']? = some (some stored) →
    (store cells).SameAt row row' (store cells')

namespace LeafCells

/-- An entry made from a cell is found where the cell is. -/
theorem get?_map_ofNat {α β : Type} (f : α → β) {cells : List α} {row : Nat} {cell : α}
    (h : cells[row]? = some cell) : Position.get? (cells.map f) row = some (f cell) := by
  rw [Position.get?_ofNat, List.getElem?_map, h]
  rfl

/-- Integers are stored cell by cell. -/
theorem isMadeByCell_long : IsMadeByCell fun cells => long (filled 0 cells) :=
  fun _ _ _ _ _ h h' => (ColumnVector.get?_filled h).trans (ColumnVector.get?_filled h').symm

/-- Numbers are stored cell by cell. -/
theorem isMadeByCell_double : IsMadeByCell fun cells => double (filled .zero cells) :=
  fun _ _ _ _ _ h h' => (ColumnVector.get?_filled h).trans (ColumnVector.get?_filled h').symm

/-- Bytes are stored cell by cell. -/
theorem isMadeByCell_bytes : IsMadeByCell fun cells => bytes (filled [] cells) :=
  fun _ _ _ _ _ h h' => (ColumnVector.get?_filled h).trans (ColumnVector.get?_filled h').symm

/-- Decimals are stored cell by cell. -/
theorem isMadeByCell_decimal :
    IsMadeByCell fun cells => decimal (cells.map fun cell => (cell.map .decimal).getD .null) := by
  intro cells cells' row row' stored h h'
  show Position.get? _ _ = Position.get? _ _
  rw [get?_map_ofNat _ h, get?_map_ofNat _ h']

/-- Timestamps are stored cell by cell. -/
theorem isMadeByCell_ofCounts (unit : TimeUnit) :
    IsMadeByCell fun cells => ofCounts unit (filled 0 cells) := by
  intro cells cells' row row' count h h'
  have hcount : (filled 0 cells)[row]? = some count := ColumnVector.get?_filled h
  have hcount' : (filled 0 cells')[row']? = some count := ColumnVector.get?_filled h'
  have hsplit := (get?_map_ofNat (fun count => splitNanos (count * unit.nanos)) hcount).trans
    (get?_map_ofNat (fun count => splitNanos (count * unit.nanos)) hcount').symm
  simp only [SameAt, ofCounts, Position.get?_ofNat, List.getElem?_map] at hsplit ⊢
  rw [hsplit]
  exact ⟨rfl, rfl⟩

end LeafCells

namespace ColumnType

open ColumnVector

variable {type : ColumnType}

/-- A type whose columns are made cell by cell: the same cells are the same elements, and the same
entries in storage. -/
def IsCellwise (type : ColumnType) : Prop :=
  ∃ (α : Type) (make : α → Element) (store : List (Option α) → LeafCells), make.Injective ∧
    LeafCells.IsMadeByCell store ∧ ∀ (data : ColumnData) (vector : ColumnVector)
      (all : List Element), ofColumn type data = .ok vector → data.elements? type = some all →
      ∃ cells, vector = .ofCells cells store ∧ all = cells.map (Element.ofCell make)

/-- Columns without parts are made cell by cell. -/
theorem IsLeaf.isCellwise (leaf : type.IsLeaf) : type.IsCellwise := by
  cases type with
  | list | map | struct | union | foreign => exact leaf.elim
  | boolean | integer | date =>
    refine ⟨_, .integer, _, fun _ _ => Element.integer.inj, LeafCells.isMadeByCell_long, ?_⟩
    intro data vector all laid hall
    cases data <;> try contradiction
    cases laid
    cases hall
    exact ⟨_, rfl, rfl⟩
  | timestamp unit =>
    refine ⟨_, .integer, _, fun _ _ => Element.integer.inj,
      LeafCells.isMadeByCell_ofCounts unit, ?_⟩
    intro data vector all laid hall
    cases data <;> try contradiction
    cases laid
    cases hall
    exact ⟨_, rfl, rfl⟩
  | floating width =>
    refine ⟨_, .floating, _, fun _ _ => Element.floating.inj, LeafCells.isMadeByCell_double, ?_⟩
    intro data vector all laid hall
    cases data <;> try contradiction
    cases laid
    cases hall
    exact ⟨_, rfl, rfl⟩
  | text | binary =>
    refine ⟨_, .bytes, _, fun _ _ => Element.bytes.inj, LeafCells.isMadeByCell_bytes, ?_⟩
    intro data vector all laid hall
    cases data <;> try contradiction
    cases laid
    cases hall
    exact ⟨_, rfl, rfl⟩
  | decimal precision scale =>
    refine ⟨_, .decimal, _, fun _ _ => Element.decimal.inj, LeafCells.isMadeByCell_decimal, ?_⟩
    intro data vector all laid hall
    cases data <;> try contradiction
    cases laid
    cases hall
    exact ⟨_, rfl, rfl⟩

/-- An element that is there was made from a cell that is there. -/
theorem exists_stored {α : Type} {make : α → Element} {cells : List (Option α)} {row : Nat}
    {element : Element} (he : (cells.map (Element.ofCell make))[row]? = some element)
    (there : element ≠ .missing) :
    ∃ stored, cells[row]? = some (some stored) ∧ make stored = element := by
  rw [List.getElem?_map] at he
  obtain ⟨cell, hcell, same⟩ := Option.map_eq_some_iff.mp he
  cases cell with
  | none => exact absurd same.symm there
  | some stored => exact ⟨stored, hcell, same⟩

/-- Columns that are made cell by cell are read alike where they show the same element. -/
theorem IsCellwise.isReadAlike (h : type.IsCellwise) : type.IsReadAlike := by
  obtain ⟨α, make, store, injective, made, hcells⟩ := h
  intro vector vector' row row' element shown shown' policy declared unified
  refine shown.alike_cell shown' fun there hnull hnull' => ?_
  obtain ⟨data, all, laid, hall, he⟩ := shown
  obtain ⟨data', all', laid', hall', he'⟩ := shown'
  obtain ⟨cells, rfl, rfl⟩ := hcells _ _ _ laid hall
  obtain ⟨cells', rfl, rfl⟩ := hcells _ _ _ laid' hall'
  obtain ⟨stored, hcell, rfl⟩ := exists_stored he there
  obtain ⟨stored', hcell', same⟩ := exists_stored he' there
  cases injective same
  have hvalue := (made _ _ _ _ _ hcell hcell').value_eq policy declared.category unified
  apply alike_of_eq
  rw [ofCells, ofCells, cell_leaf hnull, cell_leaf hnull', leafCell, leafCell,
    RowFlags.index_ofPresent, RowFlags.index_ofPresent, hvalue]

mutual

/-- Rows that show the same element are read alike, whatever the type. -/
theorem isReadAlike (type : ColumnType) : type.IsReadAlike := by
  cases type with
  | list element => exact (isReadAlike element).list
  | map key value => exact (isReadAlike key).map (isReadAlike value)
  | struct fields => exact .struct (forall_isReadAlike fields)
  | union dense branches codes => exact .union (forall_isReadAlike branches)
  | foreign name =>
    intro _ _ _ _ _ shown
    obtain ⟨_, _, laid, _⟩ := shown
    cases laid
  | _ => exact IsCellwise.isReadAlike (IsLeaf.isCellwise trivial)

/-- Each of some named types is read alike. -/
theorem forall_isReadAlike (fields : List (String × ColumnType)) :
    ∀ field ∈ fields, field.2.IsReadAlike := by
  match fields with
  | [] => exact fun _ member => absurd member List.not_mem_nil
  | (name, type) :: fields =>
    exact List.forall_mem_cons.mpr ⟨isReadAlike type, forall_isReadAlike fields⟩

end

end ColumnType

end OrcRows
