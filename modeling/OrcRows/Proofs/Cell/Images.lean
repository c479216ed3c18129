import OrcRows.Proofs.Cell.DeepMaps

/-!
# Bytes that begin like an image

A policy may keep bytes that begin like an image. A column of text is always given text as its type,
and bytes are presented as text under that type, so what was kept is decoded after all: under the
type that a column was given, cells are the same whether images are kept or not.
-/

namespace OrcRows

/-- The policy that keeps images or not, with the same encoding. -/
def TextPolicy.withImages (policy : TextPolicy) (keeps : Bool) : TextPolicy :=
  ⟨policy.encoding, keeps⟩

/-- Bytes under the type of a text are decoded, whether they were kept or not. -/
theorem bytesValue_present_text (policy : TextPolicy) (category : Category)
    (stored : List UInt8) :
    (bytesValue policy category stored >>= fun value =>
      value.present policy category (some (.basic .string))) =
        (policy.encoding.textOf stored).map .text := by
  rw [bytesValue]
  split
  · rfl
  · cases policy.encoding.textOf stored <;> rfl

/-- A leaf cell of a column that stores bytes as text is the decoded text. -/
theorem leafCell_text (policy : TextPolicy) {flags : RowFlags} {values : List (List UInt8)}
    {declared : NativeType} {stored : List UInt8} {row : Int}
    (found : Position.get? values (flags.index row) = some stored) :
    leafCell policy flags (.bytes values) declared (some (.basic .string)) row =
      (policy.encoding.textOf stored).map .text := by
  rw [leafCell, LeafCells.value]
  simp only [found, Outcome.ofOption_some, Outcome.ok_bind]
  exact bytesValue_present_text policy declared.category stored

section Leaves

variable {policy : TextPolicy} {flags : RowFlags} {cells : LeafCells} {declared : NativeType}
  {target : Option UnifiedType} {unified : UnifiedType}

/-- A leaf cell under the type that its column was given does not depend on keeping images. -/
theorem leafCell_withImages (kind : cells.IsKindOf declared.category)
    (mapped : declared.unify target = .ok unified) (keeps : Bool) (row : Int) :
    leafCell (policy.withImages keeps) flags cells declared (some unified) row =
      leafCell policy flags cells declared (some unified) row := by
  cases cells with
  | bytes values =>
    obtain ⟨category, children, fieldNames, precision, scale⟩ := declared
    cases found : Position.get? values (flags.index row) with
    | none =>
      simp only [leafCell, LeafCells.value, found]
      rfl
    | some stored =>
      by_cases binary : category = .binary
      · subst binary
        simp only [leafCell, LeafCells.value, found]
        rfl
      · have text : category.leafTag? = some .string := by
          cases category <;> simp_all [LeafCells.IsKindOf, Category.isBytes, NativeType.category,
            Category.leafTag?]
        obtain rfl := NativeType.unify_text text mapped
        rw [leafCell_text _ found, leafCell_text _ found]
        rfl
  | _ => rfl

/-- Elements under the type that they were given do not depend on keeping images. -/
theorem elements_withImages (kind : cells.IsKindOf declared.category)
    (mapped : declared.unify target = .ok unified) (keeps : Bool) (container : String)
    (slice : Int × Int) :
    elements (policy.withImages keeps) container (.leaf flags cells) declared (some unified) slice =
      elements policy container (.leaf flags cells) declared (some unified) slice := by
  have same : elementCell (policy.withImages keeps) flags cells declared (some unified) =
      elementCell policy flags cells declared (some unified) := by
    funext row
    rw [elementCell, elementCell, leafCell_withImages kind mapped]
  rw [elements, elements, same]

end Leaves

namespace ColumnVector

variable {policy : TextPolicy} {row : Int}

/-- A list under the type that it was given does not depend on keeping images. -/
theorem listCell_withImages {flags elementFlags : RowFlags} {cells : LeafCells}
    {offsets lengths : List Int} {element : NativeType} {target : Option UnifiedType}
    {type : UnifiedType} {fieldNames : List String} {precision scale : Option Int}
    (kind : cells.IsKindOf element.category) (mapped : element.unify target = .ok type)
    (keeps : Bool) :
    listCell (policy.withImages keeps) flags offsets lengths (some (leaf elementFlags cells))
        (.node .list [element] fieldNames precision scale) (some (.array type)) row =
      listCell policy flags offsets lengths (some (leaf elementFlags cells))
        (.node .list [element] fieldNames precision scale) (some (.array type)) row := by
  have given : (some (UnifiedType.array type)).bind (·.element?) = some type := rfl
  simp only [listCell, given, NativeType.child, NativeType.children, List.getElem?_cons_zero,
    Outcome.ofOption_some, Outcome.ok_bind, elements_withImages kind mapped keeps]

/-- A map under the type that it was given does not depend on keeping images: what is not a leaf is
refused either way. -/
theorem mapCell_withImages {flags : RowFlags} {offsets lengths : List Int}
    {keys values : ColumnVector} {key value : NativeType}
    {keyTarget valueTarget : Option UnifiedType} {keyType valueType : UnifiedType}
    {fieldNames : List String} {precision scale : Option Int}
    (hk : keys.Matches LeafCells.IsKindOf key) (hv : values.Matches LeafCells.IsKindOf value)
    (mappedKey : key.unify keyTarget = .ok keyType)
    (mappedValue : value.unify valueTarget = .ok valueType) (keeps : Bool) :
    mapCell (policy.withImages keeps) flags offsets lengths (some keys) (some values)
        (.node .map [key, value] fieldNames precision scale) (some (.map keyType valueType)) row =
      mapCell policy flags offsets lengths (some keys) (some values)
        (.node .map [key, value] fieldNames precision scale) (some (.map keyType valueType))
        row := by
  by_cases deep : IsLeafChild (some keys) ∧ IsLeafChild (some values)
  · obtain ⟨⟨keyFlags, keyCells, rfl⟩, valueFlags, valueCells, rfl⟩ := exists_leaves deep
    have givenKey : (some (UnifiedType.map keyType valueType)).bind (·.key?) = some keyType := rfl
    have givenValue : (some (UnifiedType.map keyType valueType)).bind (·.value?) =
      some valueType := rfl
    simp only [mapCell, givenKey, givenValue, NativeType.child, NativeType.children,
      List.getElem?_cons_zero, List.getElem?_cons_succ, Outcome.ofOption_some, Outcome.ok_bind,
      elements_withImages (matches_leaf.mp hk) mappedKey keeps,
      elements_withImages (matches_leaf.mp hv) mappedValue keeps]
  · rw [mapCell_of_deep deep, mapCell_of_deep deep]

mutual

/-- Under the type that a column was given, a cell of a matching vector does not depend on keeping
images. -/
theorem Matches.cell_withImages (vector : ColumnVector) {declared : NativeType}
    {target : Option UnifiedType} {unified : UnifiedType}
    (h : vector.Matches LeafCells.IsKindOf declared) (mapped : declared.unify target = .ok unified)
    (keeps : Bool) :
    vector.cell (policy.withImages keeps) declared (some unified) row =
      vector.cell policy declared (some unified) row := by
  cases hnull : vector.flags.nullAt row with
  | error fault =>
    rw [cell.eq_def, cell.eq_def, hnull]
    rfl
  | ok null =>
    cases null with
    | true => rw [cell_null hnull, cell_null hnull]
    | false =>
      cases vector with
      | leaf flags cells =>
        rw [cell_leaf hnull, cell_leaf hnull, leafCell_withImages (matches_leaf.mp h) mapped]
      | list flags offsets lengths child =>
        obtain ⟨inner, element, _, _, _, rfl, rfl, hinner⟩ := exists_of_matches_list h
        obtain ⟨_, type, hu, rfl, allowed⟩ := NativeType.unify_list mapped
        obtain ⟨elementFlags, cells, rfl, hcells⟩ := hinner.exists_leaf hu allowed
        rw [cell_list hnull rfl, cell_list hnull rfl]
        exact listCell_withImages hcells hu keeps
      | map flags offsets lengths keys values =>
        obtain ⟨innerKeys, innerValues, key, value, _, _, _, rfl, rfl, rfl, hk, hv⟩ :=
          exists_of_matches_map h
        obtain ⟨_, _, keyType, valueType, hku, hvu, rfl⟩ := NativeType.unify_map mapped
        rw [cell_map hnull rfl, cell_map hnull rfl]
        exact mapCell_withImages hk hv hku hvu keeps
      | struct flags fields =>
        obtain ⟨children, fieldNames, precision, scale, rfl, hall⟩ := exists_of_matches_struct h
        obtain ⟨targets, types, hu, hn, rfl⟩ := NativeType.unify_struct mapped
        have htypes := UnifiedType.fieldTypes_zip hn
        have hwidth : fields.length ≤ children.length := hall.length_eq.le
        have hcategory : (NativeType.node .struct children fieldNames precision scale).category =
          .struct := rfl
        have hfields : fieldCells (policy.withImages keeps) fields children types row =
            fieldCells policy fields children types row :=
          AllMatch.fieldCells_withImages fields hall hu keeps
        rw [cell_struct hnull hcategory hwidth, cell_struct hnull hcategory hwidth,
          Option.map_some, Option.getD_some, htypes]
        exact congrArg _ hfields
      | union flags tags branches offsets =>
        obtain ⟨children, _, _, _, rfl⟩ := exists_of_matches_union h
        exact (NativeType.unify_union_ne_ok mapped).elim
      | untyped flags => exact h.elim

/-- The cells of fields do not depend on keeping images. -/
theorem AllMatch.fieldCells_withImages (fields : List ColumnVector) {declared : List NativeType}
    {targets types : List UnifiedType} (h : AllMatch LeafCells.IsKindOf fields declared)
    (mapped : NativeType.unifyAll declared targets = .ok types) (keeps : Bool) :
    fieldCells (policy.withImages keeps) fields declared types row =
      fieldCells policy fields declared types row := by
  match fields, declared with
  | [], [] => rw [fieldCells.eq_def, fieldCells.eq_def]
  | [], _ :: _ => exact h.elim
  | _ :: _, [] => exact h.elim
  | field :: fields, type :: declared =>
    obtain ⟨unified, others, hu, ho, rfl⟩ := NativeType.unifyAll_cons mapped
    have hfirst : field.cell (policy.withImages keeps) type (some unified) row =
        field.cell policy type (some unified) row := Matches.cell_withImages field h.1 hu keeps
    have hrest : fieldCells (policy.withImages keeps) fields declared others row =
        fieldCells policy fields declared others row :=
      AllMatch.fieldCells_withImages fields h.2 ho keeps
    rw [fieldCells_cons, fieldCells_cons, List.head?_cons, List.tail_cons, hfirst, hrest]

end

end ColumnVector

end OrcRows
