import OrcRows.Proofs.Cell.DeepMaps
import OrcRows.Proofs.Cell.PresentedLeaves
import OrcRows.Proofs.Entries

/-!
# Presenting a cell while it is read

The type of a column is handed down while a cell is read: to the fields of a struct by position, to
the elements of a list, to the keys and the values of a map. What comes of it is the cell that is
read without a type, presented afterwards, leaf by leaf and in place. A map is made of its presented
keys and values, so all that it stores has to have a presentation, what a later entry replaces
included.
-/

namespace OrcRows

open Outcome

variable {policy : TextPolicy}

section Maps

/-- Values that are walked are walked one by one. -/
theorem forall₂_underAll {declared : NativeType} {values results : List Value}
    (walked : Value.underAll policy declared unified values = .ok results) :
    List.Forall₂ (fun value result => value.under policy declared unified = .ok result) values
      results := by
  induction values generalizing results with
  | nil =>
    rw [Value.underAll.eq_def] at walked
    cases walked
    exact .nil
  | cons value rest ih =>
    obtain ⟨result, others, hresult, hothers, rfl⟩ := Value.underAll_cons walked
    exact .cons hresult (ih hothers)

/-- Entries whose keys and values are walked are walked. -/
theorem underEntries_of_forall₂ {key value : NativeType × UnifiedType}
    {entries results : List (Value × Value)}
    (h : List.Forall₂ (fun entry result => entry.1.under policy key.1 key.2 = .ok result.1 ∧
      entry.2.under policy value.1 value.2 = .ok result.2) entries results) :
    Value.underEntries policy key value entries = .ok results := by
  induction h with
  | nil => rw [Value.underEntries.eq_def]
  | cons first _ ih =>
    rw [Value.underEntries.eq_def]
    simp only [first.1, first.2, ih, ok_bind]
    rfl

/-- Lists that correspond to each other are paired to corresponding pairs. -/
theorem forall₂_zip_zip {linked valued : Value → Value → Prop}
    {keys keys' values values' : List Value} (hk : List.Forall₂ linked keys keys')
    (hv : List.Forall₂ valued values values') :
    List.Forall₂ (fun pair pair' => linked pair.1 pair'.1 ∧ valued pair.2 pair'.2)
      (keys.zip values) (keys'.zip values') := by
  induction hk generalizing values values' with
  | nil => exact .nil
  | cons firstKey _ ih =>
    cases hv with
    | nil => exact .nil
    | cons firstValue restValues => exact .cons ⟨firstKey, firstValue⟩ (ih restValues)

/-- What holds of every two keys and their counterparts holds of the pairs that they are keys of. -/
theorem pairwise_zip_zip {agree : Value × Value → Value × Value → Prop}
    {keys keys' values values' : List Value} (paired : keys.length = values.length)
    (paired' : keys'.length = values'.length) (h : (keys.zip keys').Pairwise agree) :
    ((keys.zip values).zip (keys'.zip values')).Pairwise fun earlier later =>
      agree (earlier.1.1, earlier.2.1) (later.1.1, later.2.1) := by
  have hkeysOf : ((keys.zip values).zip (keys'.zip values')).map (Prod.map Prod.fst Prod.fst) =
      keys.zip keys' := by
    rw [← List.zip_map, List.map_fst_zip paired.le, List.map_fst_zip paired'.le]
  rwa [← hkeysOf, List.pairwise_map] at h

/-- Stored keys and values all have a presentation, and two keys are the same after it exactly if
they are before. -/
def PresentsPairs (policy : TextPolicy) (key value : NativeType × UnifiedType)
    (keys values : List Value) : Prop :=
  ∃ keys' values', Value.underAll policy key.1 key.2 keys = .ok keys' ∧
    Value.underAll policy value.1 value.2 values = .ok values' ∧
    (keys.zip keys').Pairwise fun earlier later =>
      Value.same earlier.1 later.1 = Value.same earlier.2 later.2

/-- A map of stored pairs that have a presentation is walked to the map of the presented pairs. -/
theorem PresentsPairs.underEntries {key value : NativeType × UnifiedType}
    {keys values : List Value} (h : PresentsPairs policy key value keys values)
    (paired : keys.length = values.length) :
    ∃ keys' values', Value.underAll policy key.1 key.2 keys = .ok keys' ∧
      Value.underAll policy value.1 value.2 values = .ok values' ∧
      Value.underEntries policy key value (Value.collectEntries (keys.zip values)) =
        .ok (Value.collectEntries (keys'.zip values')) := by
  obtain ⟨keys', values', hkeys, hvalues, agree⟩ := h
  have hk := forall₂_underAll hkeys
  have hv := forall₂_underAll hvalues
  have paired' : keys'.length = values'.length :=
    hk.length_eq.symm.trans (paired.trans hv.length_eq)
  exact ⟨keys', values', hkeys, hvalues, underEntries_of_forall₂
    (Value.forall₂_collectEntries (forall₂_zip_zip hk hv) (pairwise_zip_zip paired paired' agree))⟩

end Maps

namespace ColumnVector

section Cells

variable {row : Int}

/-- A list is read under a type as it is walked. -/
theorem listCell_under {flags elementFlags : RowFlags} {cells : LeafCells}
    {offsets lengths : List Int} {element : NativeType} {type : UnifiedType}
    {fieldNames : List String} {precision scale : Option Int} {value result : Value}
    (read : listCell policy flags offsets lengths (some (leaf elementFlags cells))
      (.node .list [element] fieldNames precision scale) none row = .ok value)
    (walked : value.under policy (.node .list [element] fieldNames precision scale)
      (.array type) = .ok result) :
    listCell policy flags offsets lengths (some (leaf elementFlags cells))
      (.node .list [element] fieldNames precision scale) (some (.array type)) row =
        .ok result := by
  simp only [listCell, NativeType.child, NativeType.children, List.getElem?_cons_zero,
    ofOption_some, ok_bind] at read ⊢
  obtain ⟨place, hplace, read⟩ := bind_eq_ok read
  obtain ⟨values, hvalues, read⟩ := bind_eq_ok read
  cases read
  rw [Value.under.eq_def] at walked
  simp only [NativeType.children, List.getElem?_cons_zero, ofOption_some, ok_bind,
    UnifiedType.element?] at walked
  obtain ⟨results, hresults, walked⟩ := bind_eq_ok walked
  cases walked
  rw [hplace, ok_bind, Option.bind_some, UnifiedType.element?, elements_under hvalues hresults]
  rfl

/-- The keys and the values that a row of a map vector stores, those of replaced entries
included. -/
def Stores (policy : TextPolicy) (flags : RowFlags) (offsets lengths : List Int)
    (keys values : ColumnVector) (key value : NativeType) (row : Int)
    (keyList valueList : List Value) : Prop :=
  ∃ place, slice flags offsets lengths row = .ok place ∧
    elements policy "map" keys key none place = .ok keyList ∧
    elements policy "map" values value none place = .ok valueList

/-- A map is read under a type as it is walked, if all that it stores has a presentation. -/
theorem mapCell_under {flags : RowFlags} {offsets lengths : List Int}
    {keys values : ColumnVector} {key value : NativeType} {keyType valueType : UnifiedType}
    {fieldNames : List String} {precision scale : Option Int} {found result : Value}
    (presents : ∀ keyList valueList,
      Stores policy flags offsets lengths keys values key value row keyList valueList →
        PresentsPairs policy (key, keyType) (value, valueType) keyList valueList)
    (read : mapCell policy flags offsets lengths (some keys) (some values)
      (.node .map [key, value] fieldNames precision scale) none row = .ok found)
    (walked : found.under policy (.node .map [key, value] fieldNames precision scale)
      (.map keyType valueType) = .ok result) :
    mapCell policy flags offsets lengths (some keys) (some values)
      (.node .map [key, value] fieldNames precision scale) (some (.map keyType valueType)) row =
        .ok result := by
  by_cases deep : IsLeafChild (some keys) ∧ IsLeafChild (some values)
  case neg =>
    rw [mapCell_of_deep deep] at read
    obtain ⟨_, _, read⟩ := bind_eq_ok read
    cases read
  obtain ⟨⟨keyFlags, keyCells, rfl⟩, valueFlags, valueCells, rfl⟩ := exists_leaves deep
  simp only [mapCell, NativeType.child, NativeType.children, List.getElem?_cons_zero,
    List.getElem?_cons_succ, ofOption_some, ok_bind] at read ⊢
  obtain ⟨place, hplace, read⟩ := bind_eq_ok read
  obtain ⟨keyList, hkeys, read⟩ := bind_eq_ok read
  obtain ⟨valueList, hvalues, read⟩ := bind_eq_ok read
  cases read
  -- what is stored is presented pair by pair, and the map of the presented pairs is the walked one
  have paired : keyList.length = valueList.length :=
    (length_readRows hkeys).trans (length_readRows hvalues).symm
  obtain ⟨keyList', valueList', hkeys', hvalues', hentries⟩ :=
    (presents keyList valueList ⟨place, hplace, hkeys, hvalues⟩).underEntries paired
  rw [Value.under.eq_def] at walked
  simp only [NativeType.children, List.getElem?_cons_zero, List.getElem?_cons_succ, ofOption_some,
    ok_bind, UnifiedType.key?, UnifiedType.value?, hentries] at walked
  cases walked
  simp only [hplace, ok_bind, Option.bind_some, UnifiedType.key?, UnifiedType.value?,
    elements_under hkeys hkeys', elements_under hvalues hvalues']
  rfl

end Cells

mutual

/-- All that a row stores for maps has a presentation under a type, what a later entry replaces
included, and two keys are the same after it exactly if they are before. -/
def PresentsMaps (policy : TextPolicy) (row : Int) :
    ColumnVector → NativeType → UnifiedType → Prop
  | map flags offsets lengths (some keys) (some values), .node _ [key, value] _ _ _,
      .map keyType valueType =>
    flags.nullAt row = .ok false → ∀ keyList valueList,
      Stores policy flags offsets lengths keys values key value row keyList valueList →
        PresentsPairs policy (key, keyType) (value, valueType) keyList valueList
  | struct flags fields, declared, unified =>
    flags.nullAt row = .ok false →
      AllPresentMaps policy row fields declared.children unified.fieldTypes
  | _, _, _ => True

/-- All that a row stores for maps in fields has a presentation. -/
def AllPresentMaps (policy : TextPolicy) (row : Int) :
    List ColumnVector → List NativeType → List UnifiedType → Prop
  | field :: fields, type :: declared, unified :: types =>
    PresentsMaps policy row field type unified ∧ AllPresentMaps policy row fields declared types
  | _, _, _ => True

end

mutual

/-- A cell of a matching vector is read under the type that its column was given as what is read
without a type is walked under it. -/
theorem Matches.cell_under (vector : ColumnVector) {declared : NativeType}
    {target : Option UnifiedType} {unified : UnifiedType} {row : Int} {value result : Value}
    (h : vector.Matches LeafCells.IsKindOf declared) (mapped : declared.unify target = .ok unified)
    (maps : vector.PresentsMaps policy row declared unified)
    (read : vector.cell policy declared none row = .ok value)
    (walked : value.under policy declared unified = .ok result) :
    vector.cell policy declared (some unified) row = .ok result := by
  cases hnull : vector.flags.nullAt row with
  | error fault =>
    rw [cell.eq_def, hnull] at read
    cases read
  | ok null =>
    cases null with
    | true =>
      rw [cell_null hnull] at read ⊢
      cases read
      rw [Value.under.eq_def] at walked
      exact walked
    | false =>
      cases vector with
      | leaf flags cells =>
        rw [cell_leaf hnull] at read ⊢
        exact leafCell_under read walked
      | list flags offsets lengths child =>
        obtain ⟨inner, element, _, _, _, rfl, rfl, hinner⟩ := exists_of_matches_list h
        obtain ⟨_, type, hu, rfl, allowed⟩ := NativeType.unify_list mapped
        obtain ⟨elementFlags, cells, rfl, _⟩ := hinner.exists_leaf hu allowed
        rw [cell_list hnull rfl] at read ⊢
        exact listCell_under read walked
      | map flags offsets lengths keys values =>
        obtain ⟨innerKeys, innerValues, key, value, _, _, _, rfl, rfl, rfl, _, _⟩ :=
          exists_of_matches_map h
        obtain ⟨_, _, keyType, valueType, _, _, rfl⟩ := NativeType.unify_map mapped
        rw [cell_map hnull rfl] at read ⊢
        rw [PresentsMaps] at maps
        exact mapCell_under (maps hnull) read walked
      | struct flags fields =>
        obtain ⟨children, fieldNames, precision, scale, rfl, hall⟩ := exists_of_matches_struct h
        obtain ⟨targets, types, hu, hn, rfl⟩ := NativeType.unify_struct mapped
        have htypes := UnifiedType.fieldTypes_zip hn
        have hwidth : fields.length ≤ children.length := hall.length_eq.le
        have hcategory : (NativeType.node .struct children fieldNames precision scale).category =
          .struct := rfl
        rw [cell_struct hnull hcategory hwidth] at read ⊢
        obtain ⟨values, hvalues, same⟩ := map_eq_ok read
        subst same
        rw [PresentsMaps, htypes] at maps
        rw [Value.under.eq_def, htypes] at walked
        obtain ⟨results, hresults, walked⟩ := bind_eq_ok walked
        cases walked
        have hfields : fieldCells policy fields children types row = .ok results :=
          AllMatch.fieldCells_under fields hall hu (maps hnull) hvalues hresults
        rw [Option.map_some, Option.getD_some, htypes]
        exact congrArg _ hfields
      | union flags tags branches offsets =>
        obtain ⟨children, _, _, _, rfl⟩ := exists_of_matches_union h
        exact (NativeType.unify_union_ne_ok mapped).elim
      | untyped flags => exact h.elim

/-- The cells of fields are read under the types of their columns as they are walked. -/
theorem AllMatch.fieldCells_under (fields : List ColumnVector) {declared : List NativeType}
    {targets types : List UnifiedType} {row : Int} {values results : List Value}
    (h : AllMatch LeafCells.IsKindOf fields declared)
    (mapped : NativeType.unifyAll declared targets = .ok types)
    (maps : AllPresentMaps policy row fields declared types)
    (read : fieldCells policy fields declared [] row = .ok values)
    (walked : Value.underFields policy declared types values = .ok results) :
    fieldCells policy fields declared types row = .ok results := by
  match fields, declared with
  | [], [] =>
    rw [fieldCells.eq_def] at read ⊢
    cases read
    rw [Value.underFields.eq_def] at walked
    exact walked
  | [], _ :: _ => exact h.elim
  | _ :: _, [] => exact h.elim
  | field :: fields, type :: declared =>
    obtain ⟨unified, others, hu, ho, rfl⟩ := NativeType.unifyAll_cons mapped
    rw [AllPresentMaps] at maps
    rw [fieldCells_cons] at read ⊢
    obtain ⟨value, hvalue, read⟩ := bind_eq_ok read
    obtain ⟨rest, hrest, read⟩ := bind_eq_ok read
    cases read
    obtain ⟨_, _, _, _, first, others', hnatives, htypes, hfirst, hothers, rfl⟩ :=
      Value.underFields_cons walked
    cases hnatives
    cases htypes
    have hcell : field.cell policy type (some unified) row = .ok first :=
      Matches.cell_under field h.1 hu maps.1 hvalue hfirst
    have hcells : fieldCells policy fields declared others row = .ok others' :=
      AllMatch.fieldCells_under fields h.2 ho maps.2 hrest hothers
    rw [List.head?_cons, List.tail_cons, hcell, ok_bind, hcells]
    rfl

end

/-- The type that a column was given only changes how leaves are presented, in place: if a cell is
read without a type, and the walk of its value under the type succeeds, the cell is read under the
type as the walked value, which has the same shape. Of maps it is asked that all they store has a
presentation, what a later entry replaces included, and that two keys are the same after it exactly
if they are before. -/
theorem cell_presents {vector : ColumnVector} {declared : NativeType}
    {target : Option UnifiedType} {unified : UnifiedType} {row : Int} {value result : Value}
    (h : vector.Matches LeafCells.IsKindOf declared) (mapped : declared.unify target = .ok unified)
    (maps : vector.PresentsMaps policy row declared unified)
    (read : vector.cell policy declared none row = .ok value)
    (walked : value.under policy declared unified = .ok result) :
    vector.cell policy declared (some unified) row = .ok result ∧ value.SameShape result :=
  ⟨Matches.cell_under vector h mapped maps read walked, Value.sameShape_of_under value walked⟩

end ColumnVector

/-- An order as it is stored. -/
def orderStored : Value :=
  .row [.int (-5), .list [.null, .float .zero],
    .map [(.text "a\uFFFD", .decimal (.finite true 15 (-1)))],
    .timestamp ⟨-1000, by decide⟩] none

/-- The order under the types that it was given. -/
def orderPresented : Value :=
  .row [.float (.finite true 5629499534213120 (-50) (by decide)), .list [.null, .float .zero],
    .map [(.text "a\uFFFD", .decimal (.finite true 1500 (-3)))],
    .time ⟨86399999000, by decide⟩] none

/-- The order is read under the types that it was given as it is presented afterwards. -/
theorem cell_presents_order :
    orderVector.Matches LeafCells.IsKindOf orderType ∧
      orderType.unify (some orderTarget) = .ok orderUnified ∧
      orderVector.PresentsMaps .standard 1 orderType orderUnified ∧
      orderVector.cell .standard orderType none 1 = .ok orderStored ∧
      orderStored.under .standard orderType orderUnified = .ok orderPresented ∧
      (orderVector.cell .standard orderType (some orderUnified) 1 = .ok orderPresented ∧
        orderStored.SameShape orderPresented) := by
  have matching : orderVector.Matches LeafCells.IsKindOf orderType :=
    ⟨rfl, rfl, ⟨rfl, rfl⟩, rfl, trivial⟩
  have mapped : orderType.unify (some orderTarget) = .ok orderUnified := rfl
  have maps : orderVector.PresentsMaps .standard 1 orderType orderUnified := by
    refine fun _ => ⟨trivial, trivial, ?_, trivial, trivial⟩
    rintro _ keyList valueList ⟨place, hplace, hkeys, hvalues⟩
    cases hplace
    cases hkeys
    cases hvalues
    exact ⟨[.text "a\uFFFD"], [.decimal (.finite true 1500 (-3))], rfl,
      by with_unfolding_all rfl, List.pairwise_singleton ..⟩
  have read : orderVector.cell .standard orderType none 1 = .ok orderStored := by
    with_unfolding_all rfl
  have walked : orderStored.under .standard orderType orderUnified = .ok orderPresented := by
    with_unfolding_all rfl
  exact ⟨matching, mapped, maps, read, walked,
    ColumnVector.cell_presents matching mapped maps read walked⟩

/-- The declared type of notes by day. -/
def notesType : NativeType := .map (.primitive .int) (.primitive .binary)

/-- The type that notes are given, with texts. -/
def notesUnified : UnifiedType := .map (.basic .int) (.basic .string)

/-- The days of two notes of one day. -/
def notesKeys : ColumnVector := .leaf ⟨[false, false], true, false⟩ (.long [1, 1])

/-- Two notes, the second of which is empty. -/
def notesValues : ColumnVector := .leaf ⟨[false, false], true, false⟩ (.bytes [[0x61], []])

/-- The notes by day: the second one replaces the first. -/
def notesVector : ColumnVector :=
  .map ⟨[false], true, false⟩ [0] [2] (some notesKeys) (some notesValues)

/-- The letter rotation, which decodes no bytes but none at all. -/
def rotatedPolicy : TextPolicy := ⟨Codec.rotation.encoding, false⟩

/-- Without the condition on what is replaced, a cell need not be read under the type of its column:
the notes are read without a type, their days stay as they are under it, and the walk succeeds, but
the first note has no presentation, and so the cell has none. -/
theorem notes_not_presented :
    notesVector.Matches LeafCells.IsKindOf notesType ∧
      notesType.unify (some notesUnified) = .ok notesUnified ∧
      ColumnVector.Stores rotatedPolicy ⟨[false], true, false⟩ [0] [2] notesKeys notesValues
        (.primitive .int) (.primitive .binary) 0 [.int 1, .int 1] [.bytes [0x61], .bytes []] ∧
      Value.underAll rotatedPolicy (.primitive .int) (.basic .int) [.int 1, .int 1] =
        .ok [.int 1, .int 1] ∧
      notesVector.cell rotatedPolicy notesType none 0 = .ok (.map [(.int 1, .bytes [])]) ∧
      (Value.map [(.int 1, .bytes [])]).under rotatedPolicy notesType notesUnified =
        .ok (.map [(.int 1, .text "")]) ∧
      notesVector.cell rotatedPolicy notesType (some notesUnified) 0 =
        .error (.broken .noDecoder) :=
  ⟨⟨rfl, rfl⟩, rfl, ⟨(0, 2), rfl, rfl, rfl⟩, rfl, rfl, by with_unfolding_all rfl,
    by with_unfolding_all rfl⟩

end OrcRows
