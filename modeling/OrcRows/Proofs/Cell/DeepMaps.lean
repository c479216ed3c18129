import OrcRows.Proofs.Cell.Agreement
import OrcRows.Proofs.Cell.Breakdowns
import OrcRows.Proofs.Cell.Matching

/-!
# Maps that are given a type and cannot be read

Mapping restricts the elements of lists but not the keys and values of maps, and reading wants
leaves in both places. A map of anything else is given a type, and its first row that is there is
reported. Nothing besides is reported of a vector that matches its declared type and whose dates lie
in the calendar.
-/

namespace OrcRows

open Outcome

/-- A fault that is a breakdown, or a report of data without a decoder under a condition. -/
def Fault.IsUnsupportedIf (condition : Prop) : Fault → Prop
  | .reported report => report.kind = .unsupportedDataType ∧ condition
  | .broken _ => True

/-- A weaker condition permits as much. -/
theorem Fault.IsUnsupportedIf.mono {condition weaker : Prop} (h : condition → weaker)
    (fault : Fault) (hf : fault.IsUnsupportedIf condition) : fault.IsUnsupportedIf weaker := by
  cases fault with
  | reported report => exact ⟨hf.1, h hf.2⟩
  | broken cause => exact trivial

/-- Leaf storage with its dates in the calendar has nothing to report. -/
theorem LeafCells.InCalendar.onlyBreaks_value {cells : LeafCells} {category : Category}
    (h : cells.InCalendar category) (policy : TextPolicy) (unified : Option UnifiedType)
    (place : Int) : (cells.value policy category unified place).OnlyBreaks := by
  cases cells with
  | long days =>
    cases found : Position.get? days place with
    | none =>
      simp only [value, found]
      exact onlyBreaks_broken _
    | some day =>
      simp only [value, found]
      cases category with
      | date =>
        have hday : (Date.ofEpochDay? day).isSome = true := h place day found
        obtain ⟨date, hdate⟩ := Option.isSome_iff_exists.mp hday
        simp only [ofOption_some, ok_bind, longValue, hdate]
        exact onlyBreaks_ok _
      | _ => exact onlyBreaks_ok _
  | double values => exact (onlyBreaks_ofOption _ _).map
  | bytes values =>
    exact (onlyBreaks_ofOption _ _).bind fun stored => onlyBreaks_bytesValue policy category stored
  | decimal values =>
    exact (onlyBreaks_ofOption _ _).bind fun stored =>
      (onlyBreaks_ofOption _ _).bind fun value => onlyBreaks_ok _
  | timestamp millis nanos =>
    cases foundMilli : Position.get? millis place with
    | none =>
      simp only [value, foundMilli]
      exact onlyBreaks_broken _
    | some milli =>
      cases foundNano : Position.get? nanos place with
      | none =>
        simp only [value, foundMilli, foundNano]
        exact onlyBreaks_broken _
      | some nano =>
        have hmoment : (Timestamp.ofMillisNanos? milli nano).isSome = true := by
          cases category <;> exact h place milli nano foundMilli foundNano
        obtain ⟨timestamp, htimestamp⟩ := Option.isSome_iff_exists.mp hmoment
        simp only [value, foundMilli, foundNano, ofOption_some, ok_bind, timestampValue, htimestamp]
        split
        · exact onlyBreaks_ok _
        · split <;> exact onlyBreaks_ok _

section Leaves

variable {flags : RowFlags} {cells : LeafCells} {declared : NativeType}

/-- A leaf cell with dates in the calendar has nothing to report. -/
theorem onlyBreaks_leafCell (h : cells.InCalendar declared.category) (policy : TextPolicy)
    (unified : Option UnifiedType) (row : Int) :
    (leafCell policy flags cells declared unified row).OnlyBreaks :=
  (h.onlyBreaks_value policy unified (flags.index row)).bind fun value =>
    onlyBreaks_present policy declared.category value unified

/-- Elements that are leaves with dates in the calendar have nothing to report. -/
theorem onlyBreaks_elements (h : cells.InCalendar declared.category) (policy : TextPolicy)
    (container : String) (unified : Option UnifiedType) (slice : Int × Int) :
    (elements policy container (.leaf flags cells) declared unified slice).OnlyBreaks := by
  rw [elements]
  apply onlyBreaks_readRows
  intro row
  rw [elementCell]
  refine (onlyBreaks_nullAt flags row).bind fun null => ?_
  split
  · exact onlyBreaks_ok _
  · exact onlyBreaks_leafCell h policy unified row

end Leaves

namespace ColumnVector

/-- Whether a child vector is a leaf. -/
def IsLeafChild : Option ColumnVector → Prop
  | some (leaf _ _) => True
  | _ => False

/-- A row of a vector is there, and it is a map with keys or values that are not leaves or a struct
with such a map in one of its fields. -/
inductive HasDeepMap (row : Int) : ColumnVector → Prop
  | map {flags : RowFlags} {offsets lengths : List Int} {keys values : Option ColumnVector}
      (there : flags.nullAt row = .ok false) (deep : ¬ (IsLeafChild keys ∧ IsLeafChild values)) :
      HasDeepMap row (map flags offsets lengths keys values)
  | field {flags : RowFlags} {fields : List ColumnVector} {field : ColumnVector}
      (there : flags.nullAt row = .ok false) (member : field ∈ fields)
      (deep : HasDeepMap row field) : HasDeepMap row (struct flags fields)

variable {policy : TextPolicy} {flags : RowFlags} {row : Int}

/-- A missing row has no map in it. -/
theorem not_hasDeepMap_of_null {vector : ColumnVector} (h : vector.flags.nullAt row = .ok true) :
    ¬ vector.HasDeepMap row := by
  intro deep
  cases deep with
  | map there _ => exact absurd (h.symm.trans there) (by simp)
  | field there _ _ => exact absurd (h.symm.trans there) (by simp)

/-- A struct that is there has a map in it if a field has. -/
theorem hasDeepMap_struct {fields : List ColumnVector} (there : flags.nullAt row = .ok false) :
    (struct flags fields).HasDeepMap row ↔ ∃ field ∈ fields, field.HasDeepMap row := by
  constructor
  · intro deep
    cases deep with
    | field _ member deep => exact ⟨_, member, deep⟩
  · rintro ⟨field, member, deep⟩
    exact .field there member deep

/-- A list of leaves with dates in the calendar has nothing to report. -/
theorem onlyBreaks_listCell {elementFlags : RowFlags} {cells : LeafCells}
    {offsets lengths : List Int} {element : NativeType} {fieldNames : List String}
    {precision scale : Option Int} (h : cells.InCalendar element.category)
    (unified : Option UnifiedType) :
    (listCell policy flags offsets lengths (some (leaf elementFlags cells))
      (.node .list [element] fieldNames precision scale) unified row).OnlyBreaks :=
  (onlyBreaks_slice flags offsets lengths row).bind fun slice =>
    (onlyBreaks_elements h policy "list" _ slice).bind fun _ => onlyBreaks_ok _

/-- A child that is a leaf has flags and storage. -/
theorem exists_leaf_of_isLeafChild {child : Option ColumnVector} (h : IsLeafChild child) :
    ∃ flags cells, child = some (leaf flags cells) := by
  match child with
  | some (leaf flags cells) => exact ⟨flags, cells, rfl⟩

/-- Keys and values that are leaves have flags and storage. -/
theorem exists_leaves {keys values : ColumnVector}
    (h : IsLeafChild (some keys) ∧ IsLeafChild (some values)) :
    (∃ keyFlags keyCells, keys = leaf keyFlags keyCells) ∧
      ∃ valueFlags valueCells, values = leaf valueFlags valueCells := by
  obtain ⟨keyFlags, keyCells, hkeys⟩ := exists_leaf_of_isLeafChild h.1
  obtain ⟨valueFlags, valueCells, hvalues⟩ := exists_leaf_of_isLeafChild h.2
  exact ⟨⟨keyFlags, keyCells, Option.some.inj hkeys⟩,
    valueFlags, valueCells, Option.some.inj hvalues⟩

/-- Elements of a vector that is no leaf are refused. -/
theorem elements_of_not_isLeafChild {child : ColumnVector}
    (composite : ¬ IsLeafChild (some child)) (container : String) (declared : NativeType)
    (unified : Option UnifiedType) (slice : Int × Int) :
    elements policy container child declared unified slice = (do
      let fact ← typeFact declared
      .error (.report .unsupportedDataType
        (child.kindName ++ " is not supported for " ++ container ++ " vectors") [fact])) := by
  rw [elements.eq_def]
  split
  · exact absurd trivial composite
  · rfl

/-- A map with keys or values that are not leaves is refused. -/
theorem mapCell_of_deep {offsets lengths : List Int} {keys values : Option ColumnVector}
    (deep : ¬ (IsLeafChild keys ∧ IsLeafChild values)) (declared : NativeType)
    (unified : Option UnifiedType) :
    mapCell policy flags offsets lengths keys values declared unified row = (do
      let fact ← typeFact declared
      .error (.report .unsupportedDataType "unsupported map key or value type"
        [("key_kind", .text (childKindName keys)), ("value_kind", .text (childKindName values)),
         fact])) := by
  rw [mapCell.eq_def]
  split
  · exact absurd ⟨trivial, trivial⟩ deep
  · rfl

/-- A map of leaves with dates in the calendar has nothing to report. -/
theorem onlyBreaks_mapCell {keyFlags valueFlags : RowFlags} {keyCells valueCells : LeafCells}
    {offsets lengths : List Int} {key value : NativeType} {fieldNames : List String}
    {precision scale : Option Int} (hk : keyCells.InCalendar key.category)
    (hv : valueCells.InCalendar value.category) (unified : Option UnifiedType) :
    (mapCell policy flags offsets lengths (some (leaf keyFlags keyCells))
      (some (leaf valueFlags valueCells)) (.node .map [key, value] fieldNames precision scale)
      unified row).OnlyBreaks :=
  (onlyBreaks_slice flags offsets lengths row).bind fun slice =>
    (onlyBreaks_elements hk policy "map" _ slice).bind fun _ =>
      (onlyBreaks_elements hv policy "map" _ slice).bind fun _ => onlyBreaks_ok _

/-- A map that is there is read only if its keys and its values are leaves; else it is reported to
have no decoder. -/
theorem ends_mapCell_of_matches {offsets lengths : List Int} {keys values : ColumnVector}
    {key value : NativeType} {fieldNames : List String} {precision scale : Option Int}
    (there : flags.nullAt row = .ok false) (hk : keys.Matches LeafCells.InCalendar key)
    (hv : values.Matches LeafCells.InCalendar value) (unified : Option UnifiedType) :
    Ends (Fault.IsUnsupportedIf
        ((map flags offsets lengths (some keys) (some values)).HasDeepMap row))
      (fun _ => ¬ (map flags offsets lengths (some keys) (some values)).HasDeepMap row)
      (mapCell policy flags offsets lengths (some keys) (some values)
        (.node .map [key, value] fieldNames precision scale) unified row) := by
  by_cases deep : IsLeafChild (some keys) ∧ IsLeafChild (some values)
  · have shallow : ¬ (map flags offsets lengths (some keys) (some values)).HasDeepMap row := by
      intro h
      cases h with
      | map _ refused => exact refused deep
    obtain ⟨⟨keyFlags, keyCells, rfl⟩, valueFlags, valueCells, rfl⟩ := exists_leaves deep
    exact (onlyBreaks_mapCell (matches_leaf.mp hk) (matches_leaf.mp hv) unified).ends
      (fun _ => trivial) fun _ _ => shallow
  · have refused : (map flags offsets lengths (some keys) (some values)).HasDeepMap row :=
      .map there deep
    rw [mapCell_of_deep deep]
    have named : (typeFact (.node .map [key, value] fieldNames precision scale)).OnlyBreaks :=
      (onlyBreaks_ofOption _ _).bind fun _ => onlyBreaks_ok _
    refine (named.ends (fun _ => trivial) fun _ _ => trivial : Ends _ (fun _ => True) _).bind ?_
    intro fact _
    exact ⟨(Report.addContext_kind_message _ _).1, refused⟩

mutual

/-- Under the type that a column was given, a row of a matching vector with dates in the calendar is
read only if it has no map of other things than leaves in it. If it is reported, it has one. -/
theorem Matches.ends_cell (vector : ColumnVector) {declared : NativeType}
    {target : Option UnifiedType} {unified : UnifiedType}
    (h : vector.Matches LeafCells.InCalendar declared)
    (mapped : declared.unify target = .ok unified) :
    Ends (Fault.IsUnsupportedIf (vector.HasDeepMap row)) (fun _ => ¬ vector.HasDeepMap row)
      (vector.cell policy declared (some unified) row) := by
  cases hnull : vector.flags.nullAt row with
  | error fault =>
    have broken := onlyBreaks_nullAt vector.flags row
    rw [hnull] at broken
    rw [cell.eq_def, hnull]
    cases fault with
    | reported report => exact broken.elim
    | broken cause => exact trivial
  | ok null =>
    cases null with
    | true =>
      rw [cell_null hnull]
      exact not_hasDeepMap_of_null hnull
    | false =>
      cases vector with
      | leaf flags cells =>
        rw [cell_leaf hnull]
        exact (onlyBreaks_leafCell (matches_leaf.mp h) policy _ row).ends (fun _ => trivial)
          fun _ _ => nofun
      | list flags offsets lengths child =>
        obtain ⟨inner, element, _, _, _, rfl, rfl, hinner⟩ := exists_of_matches_list h
        obtain ⟨_, type, hu, rfl, allowed⟩ := NativeType.unify_list mapped
        obtain ⟨elementFlags, cells, rfl, hcells⟩ := hinner.exists_leaf hu allowed
        rw [cell_list hnull rfl]
        exact (onlyBreaks_listCell hcells _).ends (fun _ => trivial) fun _ _ => nofun
      | map flags offsets lengths keys values =>
        obtain ⟨innerKeys, innerValues, key, value, _, _, _, rfl, rfl, rfl, hk, hv⟩ :=
          exists_of_matches_map h
        rw [cell_map hnull rfl]
        exact ends_mapCell_of_matches hnull hk hv _
      | struct flags fields =>
        obtain ⟨children, fieldNames, precision, scale, rfl, hall⟩ := exists_of_matches_struct h
        obtain ⟨targets, types, hu, hn, rfl⟩ := NativeType.unify_struct mapped
        have htypes := UnifiedType.fieldTypes_zip hn
        have hwidth : fields.length ≤ children.length := hall.length_eq.le
        have hcategory : (NativeType.node .struct children fieldNames precision scale).category =
          .struct := rfl
        have there : flags.nullAt row = .ok false := hnull
        rw [cell_struct hnull hcategory hwidth, Option.map_some, Option.getD_some, htypes,
          hasDeepMap_struct there]
        exact (AllMatch.ends_fieldCells fields hall hu).map fun _ shallow => shallow
      | union flags tags branches offsets =>
        obtain ⟨children, _, _, _, rfl⟩ := exists_of_matches_union h
        exact (NativeType.unify_union_ne_ok mapped).elim
      | untyped flags => exact h.elim

/-- The fields of a struct are read only if no field has a map of other things than leaves in it. -/
theorem AllMatch.ends_fieldCells (fields : List ColumnVector) {declared : List NativeType}
    {targets types : List UnifiedType} (h : AllMatch LeafCells.InCalendar fields declared)
    (mapped : NativeType.unifyAll declared targets = .ok types) :
    Ends (Fault.IsUnsupportedIf (∃ field ∈ fields, field.HasDeepMap row))
      (fun _ => ¬ ∃ field ∈ fields, field.HasDeepMap row)
      (fieldCells policy fields declared types row) := by
  match fields, declared with
  | [], [] =>
    rw [fieldCells.eq_def]
    rintro ⟨field, member, _⟩
    exact absurd member List.not_mem_nil
  | [], _ :: _ => exact h.elim
  | _ :: _, [] => exact h.elim
  | field :: fields, type :: declared =>
    obtain ⟨unified, others, hu, ho, rfl⟩ := NativeType.unifyAll_cons mapped
    rw [fieldCells_cons, List.head?_cons, List.tail_cons]
    have split : (∃ other ∈ field :: fields, other.HasDeepMap row) ↔
        field.HasDeepMap row ∨ ∃ other ∈ fields, other.HasDeepMap row := by
      simp only [List.mem_cons, exists_eq_or_imp]
    have hfirst : Ends (Fault.IsUnsupportedIf (∃ other ∈ field :: fields, other.HasDeepMap row))
        (fun _ => ¬ field.HasDeepMap row) (field.cell policy type (some unified) row) :=
      (Matches.ends_cell field h.1 hu).permit
        (Fault.IsUnsupportedIf.mono fun deep => split.mpr (.inl deep))
    have hrest : Ends (Fault.IsUnsupportedIf (∃ other ∈ field :: fields, other.HasDeepMap row))
        (fun _ => ¬ ∃ other ∈ fields, other.HasDeepMap row)
        (fieldCells policy fields declared others row) :=
      (AllMatch.ends_fieldCells fields h.2 ho).permit
        (Fault.IsUnsupportedIf.mono fun deep => split.mpr (.inr deep))
    refine hfirst.bind fun value shallow => hrest.bind fun values others => ?_
    intro deep
    rcases split.mp deep with deep | deep
    · exact shallow deep
    · exact others deep

end

end ColumnVector

/-- Under the type that a column was given, the only thing reported of a matching vector with dates
in the calendar is a map with keys or values that are not leaves, and no row with such a map in it
is read. -/
theorem cell_reported_only_of_hasDeepMap {policy : TextPolicy} {vector : ColumnVector}
    {declared : NativeType} {target : Option UnifiedType} {unified : UnifiedType} {row : Int}
    (h : vector.Matches LeafCells.InCalendar declared)
    (mapped : declared.unify target = .ok unified) :
    (∀ report, vector.cell policy declared (some unified) row = .error (.reported report) →
      report.kind = .unsupportedDataType ∧ vector.HasDeepMap row) ∧
    (vector.HasDeepMap row →
      ∃ fault, vector.cell policy declared (some unified) row = .error fault) := by
  have hends : Ends (Fault.IsUnsupportedIf (vector.HasDeepMap row))
      (fun _ => ¬ vector.HasDeepMap row) (vector.cell policy declared (some unified) row) :=
    ColumnVector.Matches.ends_cell vector h mapped
  constructor
  · intro report hr
    rw [hr] at hends
    exact hends
  · intro deep
    cases hc : vector.cell policy declared (some unified) row with
    | ok value =>
      rw [hc] at hends
      exact absurd deep hends
    | error fault => exact ⟨fault, rfl⟩

/-- A map from words to the places where they occur. -/
def indexColumn : ColumnType := .map (.text false) (.list (.integer true 32))

/-- The declared type of an index. -/
def indexType : NativeType := .map (.primitive .string) (.list (.primitive .int))

/-- The type that an index is given. -/
def indexUnified : UnifiedType := .map (.basic .string) (.array (.basic .int))

/-- One index, of one word that occurs in one place. -/
def indexData : ColumnData :=
  .map [true] [0, 1] (.bytes [some [97]]) (.list [true] [0, 1] (.integers [some 1]))

/-- The vector of the index. -/
def indexVector : ColumnVector :=
  let flags : RowFlags := ⟨[false], true, false⟩
  .map flags [0] [1] (some (.leaf flags (.bytes [[97]])))
    (some (.list flags [0] [1] (some (.leaf flags (.long [1])))))

/-- The index is a table column; its type is given a type, and its vector matches. -/
theorem index_isGiven :
    NativeType.ofColumn indexColumn = .ok indexType ∧
      ColumnVector.ofColumn indexColumn indexData = .ok indexVector ∧
      indexType.unify none = .ok indexUnified ∧
      indexVector.Matches LeafCells.IsKindOf indexType ∧
      indexVector.Matches LeafCells.InCalendar indexType := by
  have hnative : NativeType.ofColumn indexColumn = .ok indexType := rfl
  have hvector : ColumnVector.ofColumn indexColumn indexData = .ok indexVector := rfl
  exact ⟨hnative, hvector, rfl, ColumnVector.matches_ofColumn indexColumn hvector hnative,
    trivial, trivial⟩

/-- The condition is met by the index, so that it is not read. -/
theorem cell_reported_index :
    indexVector.Matches LeafCells.InCalendar indexType ∧
      indexType.unify none = .ok indexUnified ∧
      ((∀ report, indexVector.cell .standard indexType (some indexUnified) 0 =
          .error (.reported report) →
        report.kind = .unsupportedDataType ∧ indexVector.HasDeepMap 0) ∧
      (indexVector.HasDeepMap 0 →
        ∃ fault, indexVector.cell .standard indexType (some indexUnified) 0 = .error fault)) := by
  obtain ⟨_, _, mapped, _, matching⟩ := index_isGiven
  exact ⟨matching, mapped, cell_reported_only_of_hasDeepMap matching mapped⟩

/-- The index is given a type, and reading it under this type is reported to have no decoder. -/
theorem index_not_readable :
    NativeType.ofColumn indexColumn = .ok indexType ∧
      ColumnVector.ofColumn indexColumn indexData = .ok indexVector ∧
      indexType.unify none = .ok indexUnified ∧
      indexVector.Matches LeafCells.IsKindOf indexType ∧
      indexVector.Matches LeafCells.InCalendar indexType ∧
      indexVector.cell .standard indexType (some indexUnified) 0 =
        .error (.report .unsupportedDataType "unsupported map key or value type"
          [("key_kind", .text "BYTES"), ("value_kind", .text "LIST"),
           ("category", .text "map<string,array<int>>")]) := by
  obtain ⟨hnative, hvector, mapped, kinds, dates⟩ := index_isGiven
  refine ⟨hnative, hvector, mapped, kinds, dates, ?_⟩
  rfl

end OrcRows
