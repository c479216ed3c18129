import OrcRows.Proofs.Cell.LeafTyping
import OrcRows.Proofs.Cell.Steps

/-!
# Mapping and reading agree on types

A column is given a type by recursion on its declared type; its cells are read by recursion on its
vectors. The two recursions meet here: under the type that a column was given, every cell of a
vector that holds the declared type is missing or belongs to that type. The only fault is a moment
outside the calendar.
-/

namespace OrcRows

/-- A row of a leaf vector is null, or its storage holds the declared type there. -/
def LeafCells.HoldsAt (flags : RowFlags) (cells : LeafCells) (declared : NativeType)
    (row : Int) : Prop :=
  flags.nullAt row = .ok true ∨
    flags.nullAt row = .ok false ∧ cells.Holds (flags.index row) declared

/-- A slice of a leaf vector holds a declared type. -/
def LeafCells.HoldsSlice (flags : RowFlags) (cells : LeafCells) (declared : NativeType)
    (offset length : Int) : Prop :=
  ∀ row, offset ≤ row → row < offset + length → cells.HoldsAt flags declared row

namespace ColumnVector

mutual

/-- A vector holds a declared type at a row: the row is null, or kinds and numbers of child vectors
agree with the type, every place that the row designates is there, and leaf storage holds its type
at each of them. Elements of lists and maps are leaves, as they are under every type that mapping
grants to a list. -/
def Holds (vector : ColumnVector) (declared : NativeType) (row : Int) : Prop :=
  vector.flags.nullAt row = .ok true ∨
    vector.flags.nullAt row = .ok false ∧
    match vector, declared with
    | leaf flags cells, declared => cells.Holds (flags.index row) declared
    | list flags offsets lengths child, .node .list children _ _ _ =>
      ∃ element elementFlags elementCells offset length,
        children = [element] ∧ child = some (leaf elementFlags elementCells) ∧
        Position.get? offsets (flags.index row) = some offset ∧
        Position.get? lengths (flags.index row) = some length ∧
        elementCells.HoldsSlice elementFlags element offset length
    | map flags offsets lengths keys values, .node .map children _ _ _ =>
      ∃ key value keyFlags keyCells valueFlags valueCells offset length,
        children = [key, value] ∧ keys = some (leaf keyFlags keyCells) ∧
        values = some (leaf valueFlags valueCells) ∧
        Position.get? offsets (flags.index row) = some offset ∧
        Position.get? lengths (flags.index row) = some length ∧
        keyCells.HoldsSlice keyFlags key offset length ∧
        valueCells.HoldsSlice valueFlags value offset length
    | struct _ fields, .node .struct children _ _ _ => FieldsHold fields children row
    | union flags tags branches offsets, .node .union children _ _ _ =>
      ∃ (place : Nat) (branch : NativeType) (target : Int),
        Position.get? tags (flags.index row) = some (place : Int) ∧
        children.length = branches.length ∧ children[place]? = some branch ∧
        branchRow flags offsets row = .ok target ∧ BranchHolds branches place branch target
    | _, _ => False

/-- Every field of a struct holds the declared type at its place. -/
def FieldsHold (fields : List ColumnVector) (declared : List NativeType) (row : Int) : Prop :=
  match fields, declared with
  | [], [] => True
  | field :: fields, type :: declared => field.Holds type row ∧ FieldsHold fields declared row
  | _, _ => False

/-- A branch of a union, given by its place, holds a declared type. -/
def BranchHolds (branches : List ColumnVector) (place : Nat) (declared : NativeType)
    (row : Int) : Prop :=
  match branches, place with
  | [], _ => False
  | branch :: _, 0 => branch.Holds declared row
  | _ :: branches, place + 1 => BranchHolds branches place declared row

end

/-- There are as many fields as declared types that they hold. -/
theorem length_of_fieldsHold {fields : List ColumnVector} {declared : List NativeType} {row : Int}
    (h : FieldsHold fields declared row) : fields.length = declared.length := by
  induction fields generalizing declared with
  | nil =>
    cases declared with
    | nil => rfl
    | cons type declared => exact h.elim
  | cons field fields ih =>
    cases declared with
    | nil => exact h.elim
    | cons type declared => rw [List.length_cons, List.length_cons, ih h.2]

end ColumnVector

namespace Value

/-- A value is missing or belongs to a type. -/
def IsOf (type : UnifiedType) (value : Value) : Prop := value = .null ∨ value.Inhabits type

end Value

section Reading

variable {policy : TextPolicy} {target : Option UnifiedType} {unified : UnifiedType}

/-- The elements of a slice belong to the type that they were given, or are missing. -/
theorem ends_elements (ht : policy.encoding.DecodesAll) (container : String) {flags : RowFlags}
    {cells : LeafCells} {declared : NativeType} {offset length : Int}
    (holds : cells.HoldsSlice flags declared offset length)
    (mapped : declared.unify target = .ok unified) (hp : unified.PrecisionsWithin) :
    Outcome.Ends Fault.IsOutOfCalendar (fun values => ∀ value ∈ values, value.IsOf unified)
      (elements policy container (.leaf flags cells) declared (some unified) (offset, length)) := by
  rw [elements]
  apply ends_readRows
  intro row hl hu
  rw [elementCell]
  rcases holds row hl (by omega) with hnull | ⟨hthere, hcell⟩
  · rw [hnull]
    exact .inl rfl
  · rw [hthere]
    exact (hcell.ends_leafCell ht mapped hp).mono fun value hv => .inr hv

/-- The cell of a list belongs to the array of the type that its elements were given. -/
theorem ends_listCell (ht : policy.encoding.DecodesAll) {flags elementFlags : RowFlags}
    {elementCells : LeafCells} {offsets lengths : List Int} {element : NativeType}
    {type : UnifiedType} {offset length row : Int} {fieldNames : List String}
    {precision scale : Option Int}
    (ho : Position.get? offsets (flags.index row) = some offset)
    (hl : Position.get? lengths (flags.index row) = some length)
    (holds : elementCells.HoldsSlice elementFlags element offset length)
    (mapped : element.unify target = .ok type) (hp : type.PrecisionsWithin) :
    Outcome.Ends Fault.IsOutOfCalendar (Value.Inhabits (.array type))
      (listCell policy flags offsets lengths (some (.leaf elementFlags elementCells))
        (.node .list [element] fieldNames precision scale) (some (.array type)) row) := by
  simp only [listCell, NativeType.child, NativeType.children, slice_eq_ok ho hl]
  exact (ends_elements ht "list" holds mapped hp).bind fun values hv => hv

/-- The cell of a map belongs to the map of the types that its keys and values were given. -/
theorem ends_mapCell (ht : policy.encoding.DecodesAll) {flags keyFlags valueFlags : RowFlags}
    {keyCells valueCells : LeafCells} {offsets lengths : List Int} {key value : NativeType}
    {keyTarget valueTarget : Option UnifiedType} {keyType valueType : UnifiedType}
    {offset length row : Int} {fieldNames : List String} {precision scale : Option Int}
    (ho : Position.get? offsets (flags.index row) = some offset)
    (hl : Position.get? lengths (flags.index row) = some length)
    (holdsKey : keyCells.HoldsSlice keyFlags key offset length)
    (holdsValue : valueCells.HoldsSlice valueFlags value offset length)
    (mappedKey : key.unify keyTarget = .ok keyType)
    (mappedValue : value.unify valueTarget = .ok valueType)
    (hk : keyType.PrecisionsWithin) (hv : valueType.PrecisionsWithin) :
    Outcome.Ends Fault.IsOutOfCalendar (Value.Inhabits (.map keyType valueType))
      (mapCell policy flags offsets lengths (some (.leaf keyFlags keyCells))
        (some (.leaf valueFlags valueCells)) (.node .map [key, value] fieldNames precision scale)
        (some (.map keyType valueType)) row) := by
  simp only [mapCell, NativeType.child, NativeType.children, slice_eq_ok ho hl]
  refine (ends_elements ht "map" holdsKey mappedKey hk).bind fun keys hkeys => ?_
  refine (ends_elements ht "map" holdsValue mappedValue hv).bind fun values hvalues => ?_
  refine ⟨Value.forall_collectEntries (Value.IsOf keyType) (Value.IsOf valueType) ?_,
    Value.distinctKeys_collectEntries _⟩
  intro pair hm
  obtain ⟨hkey, hvalue⟩ := List.of_mem_zip hm
  exact ⟨hkeys _ hkey, hvalues _ hvalue⟩

mutual

/-- Under the type that a column was given, a cell of a vector that holds the declared type is
missing or belongs to the given type. -/
theorem ColumnVector.Holds.ends_cell (ht : policy.encoding.DecodesAll) (vector : ColumnVector)
    {declared : NativeType} {target : Option UnifiedType} {unified : UnifiedType} {row : Int}
    (holds : vector.Holds declared row) (mapped : declared.unify target = .ok unified)
    (hp : unified.PrecisionsWithin) :
    Outcome.Ends Fault.IsOutOfCalendar (Value.IsOf unified)
      (vector.cell policy declared (some unified) row) := by
  obtain ⟨category, children, fieldNames, precision, scale⟩ := declared
  rw [ColumnVector.Holds.eq_def] at holds
  rcases holds with hnull | ⟨hthere, holds⟩
  · rw [ColumnVector.cell_null hnull]
    exact .inl rfl
  cases vector with
  | leaf flags cells =>
    rw [ColumnVector.cell_leaf hthere]
    exact (LeafCells.Holds.ends_leafCell ht holds mapped hp).mono fun value hv => .inr hv
  | list flags offsets lengths child =>
    cases category with
    | list =>
      obtain ⟨element, elementFlags, elementCells, offset, length, rfl, rfl, ho, hl, hslice⟩ :=
        holds
      obtain ⟨elementTarget, type, hu, rfl, _⟩ := NativeType.unify_list mapped
      rw [ColumnVector.cell_list hthere rfl]
      exact (ends_listCell ht ho hl hslice hu hp).mono fun value hv => .inr hv
    | _ => exact holds.elim
  | map flags offsets lengths keys values =>
    cases category with
    | map =>
      obtain ⟨key, value, keyFlags, keyCells, valueFlags, valueCells, offset, length, rfl, rfl, rfl,
        ho, hl, hkey, hvalue⟩ := holds
      obtain ⟨keyTarget, valueTarget, keyType, valueType, hk, hv, rfl⟩ :=
        NativeType.unify_map mapped
      rw [ColumnVector.cell_map hthere rfl]
      exact (ends_mapCell ht ho hl hkey hvalue hk hv hp.1 hp.2).mono fun value hv => .inr hv
    | _ => exact holds.elim
  | struct flags fields =>
    cases category with
    | struct =>
      obtain ⟨targets, types, hu, hn, rfl⟩ := NativeType.unify_struct mapped
      have htypes := UnifiedType.fieldTypes_zip hn
      have hlength := ColumnVector.length_of_fieldsHold holds
      have hcategory : (NativeType.node .struct children fieldNames precision scale).category =
        .struct := rfl
      rw [ColumnVector.cell_struct hthere hcategory hlength.le, Option.map_some, Option.getD_some,
        htypes]
      exact (ColumnVector.FieldsHold.ends_fieldCells ht fields holds hu hn hp).map
        fun values hv => .inr hv
    | _ => exact holds.elim
  | union flags tags branches offsets =>
    cases category with
    | union => exact (NativeType.unify_union_ne_ok mapped).elim
    | _ => exact holds.elim
  | untyped flags => exact holds.elim

/-- The cells of the fields of a struct belong to the types that the fields were given. -/
theorem ColumnVector.FieldsHold.ends_fieldCells (ht : policy.encoding.DecodesAll)
    (fields : List ColumnVector) {declared : List NativeType} {targets types : List UnifiedType}
    {names : List String} {row : Int} (holds : ColumnVector.FieldsHold fields declared row)
    (mapped : NativeType.unifyAll declared targets = .ok types)
    (hn : names.length = types.length)
    (hp : UnifiedType.FieldPrecisionsWithin (names.zip types)) :
    Outcome.Ends Fault.IsOutOfCalendar (Value.InhabitsAll (names.zip types))
      (ColumnVector.fieldCells policy fields declared types row) := by
  match fields, declared with
  | [], [] =>
    rw [NativeType.unifyAll.eq_def] at mapped
    injection mapped with same
    subst same
    rw [List.zip_nil_right]
    exact trivial
  | field :: fields, type :: declared =>
    obtain ⟨unified, others, hu, ho, rfl⟩ := NativeType.unifyAll_cons mapped
    obtain ⟨name, names, rfl⟩ := List.exists_cons_of_length_eq_add_one hn
    rw [ColumnVector.fieldCells_cons]
    refine (ColumnVector.Holds.ends_cell ht field holds.1 hu hp.1).bind fun value hv => ?_
    refine (ColumnVector.FieldsHold.ends_fieldCells ht fields holds.2 ho (by simpa using hn)
      hp.2).bind fun values hvs => ?_
    exact ⟨hv, hvs⟩

end

end Reading

/-- Under the type that a column was given, reading a cell of a vector that holds the declared type
ends with a value: none, or one that belongs to the given type. Only a date or a timestamp outside
the calendar is refused. -/
theorem cell_isOf_unified {policy : TextPolicy} (ht : policy.encoding.DecodesAll)
    {vector : ColumnVector} {declared : NativeType} {target : Option UnifiedType}
    {unified : UnifiedType} {row : Int} (holds : vector.Holds declared row)
    (mapped : declared.unify target = .ok unified) (hp : unified.PrecisionsWithin) :
    (∃ value, vector.cell policy declared (some unified) row = .ok value ∧ value.IsOf unified) ∨
      ∃ fault, vector.cell policy declared (some unified) row = .error fault ∧
        fault.IsOutOfCalendar :=
  Outcome.ends_iff.mp (ColumnVector.Holds.ends_cell ht vector holds mapped hp)

/-- A record of a count, weights, prices and a moment. -/
def orderType : NativeType :=
  .struct [("count", .primitive .int), ("weights", .list (.primitive .float)),
    ("prices", .map (.primitive .string) (.decimal (some 3) (some 1))),
    ("at", .primitive .timestamp)]

/-- The types asked for an order: a wider number, wider elements, bytes for keys, more digits and a
time of day. -/
def orderTarget : UnifiedType :=
  .row [("count", .basic .double), ("weights", .array (.basic .double)),
    ("prices", .map (.basic .bytes) (.decimal (some 6) (some 3))), ("at", .basic .time)]

/-- The types given to an order: keys stay text. -/
def orderUnified : UnifiedType :=
  .row [("count", .basic .double), ("weights", .array (.basic .double)),
    ("prices", .map (.basic .string) (.decimal (some 6) (some 3))), ("at", .basic .time)]

/-- Two orders. The second one has a missing weight. -/
def orderVector : ColumnVector :=
  let flags : RowFlags := ⟨[], true, false⟩
  .struct flags [.leaf flags (.long [7, -5]),
    .list flags [0, 1] [1, 2]
      (some (.leaf ⟨[false, true, false], false, false⟩ (.double [.zero, .zero, .zero]))),
    .map flags [0, 0] [0, 1] (some (.leaf flags (.bytes [[97, 0xff]])))
      (some (.leaf flags (.decimal [.decimal (.finite true 15 (-1))]))),
    .leaf flags (.timestamp [0, -1] [0, 999000000])]

/-- The vector of orders holds the type of orders at its second row. -/
theorem orderVector_holds : orderVector.Holds orderType 1 := by
  refine .inr ⟨rfl, .inr ⟨rfl, .long rfl rfl ⟨by norm_num, by norm_num⟩⟩, .inr ⟨rfl, ?_⟩,
    .inr ⟨rfl, ?_⟩, .inr ⟨rfl, .timestamp rfl rfl rfl⟩, trivial⟩
  · refine ⟨_, _, _, _, _, rfl, rfl, rfl, rfl, ?_⟩
    intro row hl hu
    rcases (by omega : row = 1 ∨ row = 2) with rfl | rfl
    · exact .inl rfl
    · exact .inr ⟨rfl, .double rfl rfl⟩
  · refine ⟨_, _, _, _, _, _, _, _, rfl, rfl, rfl, rfl, rfl, ?_, ?_⟩
    · intro row hl hu
      obtain rfl : row = 0 := by omega
      exact .inr ⟨rfl, .bytes rfl rfl⟩
    · intro row hl hu
      obtain rfl : row = 0 := by omega
      exact .inr ⟨rfl, .decimal rfl (by norm_num) (by norm_num) ⟨15, by decide, by norm_num⟩⟩

/-- An order read under the types asked for is there and belongs to the types given. -/
theorem cell_isOf_order :
    TextPolicy.standard.encoding.DecodesAll ∧ orderVector.Holds orderType 1 ∧
      orderType.unify (some orderTarget) = .ok orderUnified ∧ orderUnified.PrecisionsWithin ∧
      ((∃ value, orderVector.cell .standard orderType (some orderUnified) 1 = .ok value ∧
        value.IsOf orderUnified) ∨
      ∃ fault, orderVector.cell .standard orderType (some orderUnified) 1 = .error fault ∧
        fault.IsOutOfCalendar) := by
  have ht : TextPolicy.standard.encoding.DecodesAll := Encoding.decodesAll_utf8
  have mapped : orderType.unify (some orderTarget) = .ok orderUnified := by rfl
  have hp : orderUnified.PrecisionsWithin :=
    ⟨trivial, trivial, ⟨trivial, show (6 : Int) ≤ 999999 by norm_num⟩, trivial, trivial⟩
  exact ⟨ht, orderVector_holds, mapped, hp, cell_isOf_unified ht orderVector_holds mapped hp⟩

end OrcRows
