import OrcRows.Proofs.Table.Element

/-!
# Vectors that match a declared type

A vector matches a declared type if both have one shape down to the leaves. What is asked of the
storage of a leaf is left open: that it is of the kind its category is read from, or that its dates
lie in the calendar as well. The vectors of a table match the types that the table declares.
-/

namespace OrcRows

namespace LeafCells

/-- Leaf storage is of the kind that a category is read from. -/
def IsKindOf : LeafCells → Category → Prop
  | long _, category => category.isWhole = true
  | double _, category => category.isFloating = true
  | bytes _, category => category.isBytes = true
  | decimal _, category => category = .decimal
  | timestamp _ _, category => category.isMoment = true

/-- The dates and moments in leaf storage lie in the years 1 to 9999. -/
def InCalendar : LeafCells → Category → Prop
  | long days, .date =>
    ∀ place day, Position.get? days place = some day → (Date.ofEpochDay? day).isSome = true
  | timestamp millis nanos, _ =>
    ∀ place milli nano, Position.get? millis place = some milli →
      Position.get? nanos place = some nano → (Timestamp.ofMillisNanos? milli nano).isSome = true
  | _, _ => True

end LeafCells

namespace ColumnVector

mutual

/-- A vector has the shape of a declared type, and its leaves meet a condition. -/
def Matches (onLeaf : LeafCells → Category → Prop) (vector : ColumnVector)
    (declared : NativeType) : Prop :=
  match vector, declared with
  | leaf _ cells, .node category .. => onLeaf cells category
  | list _ _ _ (some child), .node .list [element] .. => child.Matches onLeaf element
  | map _ _ _ (some keys) (some values), .node .map [key, value] .. =>
    keys.Matches onLeaf key ∧ values.Matches onLeaf value
  | struct _ fields, .node .struct children .. => AllMatch onLeaf fields children
  | union _ _ branches _, .node .union children .. => AllMatch onLeaf branches children
  | _, _ => False

/-- There are as many vectors as declared types, and each has the shape of the type at its
place. -/
def AllMatch (onLeaf : LeafCells → Category → Prop) (vectors : List ColumnVector)
    (declared : List NativeType) : Prop :=
  match vectors, declared with
  | [], [] => True
  | vector :: vectors, type :: declared =>
    vector.Matches onLeaf type ∧ AllMatch onLeaf vectors declared
  | _, _ => False

end

variable {onLeaf : LeafCells → Category → Prop}

/-- A leaf vector matches what its storage meets the condition for. -/
theorem matches_leaf {flags : RowFlags} {cells : LeafCells} {declared : NativeType} :
    (leaf flags cells).Matches onLeaf declared ↔ onLeaf cells declared.category := by
  obtain ⟨category, children, fieldNames, precision, scale⟩ := declared
  rw [Matches.eq_def]
  rfl

/-- There are as many vectors as declared types that they match. -/
theorem AllMatch.length_eq {vectors : List ColumnVector} {declared : List NativeType}
    (h : AllMatch onLeaf vectors declared) : vectors.length = declared.length := by
  induction vectors generalizing declared with
  | nil =>
    cases declared with
    | nil => rfl
    | cons type declared => exact h.elim
  | cons vector vectors ih =>
    cases declared with
    | nil => exact h.elim
    | cons type declared => rw [List.length_cons, List.length_cons, ih h.2]

/-- A list vector matches list types whose element its child matches. -/
theorem exists_of_matches_list {flags : RowFlags} {offsets lengths : List Int}
    {child : Option ColumnVector} {declared : NativeType}
    (h : (list flags offsets lengths child).Matches onLeaf declared) :
    ∃ inner element fieldNames precision scale, child = some inner ∧
      declared = .node .list [element] fieldNames precision scale ∧
      inner.Matches onLeaf element := by
  rw [Matches.eq_def] at h
  split at h
  case h_2 same =>
    injection same with hf ho hl hc
    exact ⟨_, _, _, _, _, hc, rfl, h⟩
  case h_6 => exact h.elim
  all_goals contradiction

/-- A map vector matches map types whose key and value its children match. -/
theorem exists_of_matches_map {flags : RowFlags} {offsets lengths : List Int}
    {keys values : Option ColumnVector} {declared : NativeType}
    (h : (map flags offsets lengths keys values).Matches onLeaf declared) :
    ∃ innerKeys innerValues key value fieldNames precision scale, keys = some innerKeys ∧
      values = some innerValues ∧ declared = .node .map [key, value] fieldNames precision scale ∧
      innerKeys.Matches onLeaf key ∧ innerValues.Matches onLeaf value := by
  rw [Matches.eq_def] at h
  split at h
  case h_3 same =>
    injection same with hf ho hl hk hv
    exact ⟨_, _, _, _, _, _, _, hk, hv, rfl, h⟩
  case h_6 => exact h.elim
  all_goals contradiction

/-- A struct vector matches struct types whose fields its own fields match. -/
theorem exists_of_matches_struct {flags : RowFlags} {fields : List ColumnVector}
    {declared : NativeType} (h : (struct flags fields).Matches onLeaf declared) :
    ∃ children fieldNames precision scale,
      declared = .node .struct children fieldNames precision scale ∧
      AllMatch onLeaf fields children := by
  rw [Matches.eq_def] at h
  split at h
  case h_4 same =>
    injection same with hf hs
    subst hs
    exact ⟨_, _, _, _, rfl, h⟩
  case h_6 => exact h.elim
  all_goals contradiction

/-- A union vector matches union types only. -/
theorem exists_of_matches_union {flags : RowFlags} {tags : List Int} {branches : List ColumnVector}
    {offsets : Option (List Int)} {declared : NativeType}
    (h : (union flags tags branches offsets).Matches onLeaf declared) :
    ∃ children fieldNames precision scale,
      declared = .node .union children fieldNames precision scale := by
  rw [Matches.eq_def] at h
  split at h
  case h_5 => exact ⟨_, _, _, _, rfl⟩
  case h_6 => exact h.elim
  all_goals contradiction

/-- What matches a type that arrays may have as elements is a leaf. -/
theorem Matches.exists_leaf {vector : ColumnVector} {declared : NativeType}
    {target : Option UnifiedType} {type : UnifiedType} (h : vector.Matches onLeaf declared)
    (mapped : declared.unify target = .ok type) (allowed : type.tag.isElementTag = true) :
    ∃ flags cells, vector = leaf flags cells ∧ onLeaf cells declared.category := by
  cases vector with
  | leaf flags cells => exact ⟨flags, cells, rfl, matches_leaf.mp h⟩
  | list flags offsets lengths child =>
    obtain ⟨inner, element, _, _, _, _, rfl, _⟩ := exists_of_matches_list h
    obtain ⟨_, _, _, rfl, _⟩ := NativeType.unify_list mapped
    contradiction
  | map flags offsets lengths keys values =>
    obtain ⟨_, _, key, value, _, _, _, _, _, rfl, _⟩ := exists_of_matches_map h
    obtain ⟨_, _, _, _, _, _, rfl⟩ := NativeType.unify_map mapped
    contradiction
  | struct flags fields =>
    obtain ⟨children, _, _, _, rfl, _⟩ := exists_of_matches_struct h
    obtain ⟨_, _, _, _, rfl⟩ := NativeType.unify_struct mapped
    contradiction
  | union flags tags branches offsets =>
    obtain ⟨children, _, _, _, rfl⟩ := exists_of_matches_union h
    exact (NativeType.unify_union_ne_ok mapped).elim
  | untyped flags => exact h.elim

/-- The vector of a column without parts matches the declared type of the column. -/
theorem matches_ofColumn_of_isLeaf {type : ColumnType} {data : ColumnData} {vector : ColumnVector}
    {declared : NativeType} (leafType : type.IsLeaf) (hv : ofColumn type data = .ok vector)
    (hd : NativeType.ofColumn type = .ok declared) :
    vector.Matches LeafCells.IsKindOf declared := by
  rw [NativeType.ofColumn.eq_def] at hd
  split at hd
  case h_13 | h_14 | h_15 | h_16 => exact leafType.elim
  case h_17 => contradiction
  all_goals
    cases data <;> try contradiction
    injection hv with hv
    injection hd with hd
    rw [← hv, ← hd]
    exact rfl

mutual

/-- The vector of a column matches the declared type of the column. -/
theorem matches_ofColumn (type : ColumnType) {data : ColumnData} {vector : ColumnVector}
    {declared : NativeType} (hv : ofColumn type data = .ok vector)
    (hd : NativeType.ofColumn type = .ok declared) :
    vector.Matches LeafCells.IsKindOf declared := by
  cases type with
  | list element =>
    cases data <;> try contradiction
    obtain ⟨child, hchild, hv⟩ := Outcome.bind_eq_ok hv
    obtain ⟨native, hnative, hd⟩ := Outcome.bind_eq_ok hd
    injection hv with hv
    injection hd with hd
    rw [← hv, ← hd]
    have inner : child.Matches LeafCells.IsKindOf native := matches_ofColumn element hchild hnative
    exact inner
  | map key value =>
    cases data <;> try contradiction
    obtain ⟨keys, hkeys, hv⟩ := Outcome.bind_eq_ok hv
    obtain ⟨values, hvalues, hv⟩ := Outcome.bind_eq_ok hv
    obtain ⟨keyType, hkeyType, hd⟩ := Outcome.bind_eq_ok hd
    obtain ⟨valueType, hvalueType, hd⟩ := Outcome.bind_eq_ok hd
    injection hv with hv
    injection hd with hd
    rw [← hv, ← hd]
    exact ⟨matches_ofColumn key hkeys hkeyType, matches_ofColumn value hvalues hvalueType⟩
  | struct fields =>
    cases data <;> try contradiction
    obtain ⟨vectors, hvectors, hv⟩ := Outcome.bind_eq_ok hv
    obtain ⟨natives, hnatives, hd⟩ := Outcome.bind_eq_ok hd
    injection hv with hv
    injection hd with hd
    rw [← hv, ← hd]
    exact allMatch_ofColumns fields hvectors hnatives
  | union dense branches codes =>
    cases data <;> try contradiction
    obtain ⟨tags, htags, hv⟩ := Outcome.bind_eq_ok hv
    obtain ⟨vectors, hvectors, hv⟩ := Outcome.bind_eq_ok hv
    obtain ⟨natives, hnatives, hd⟩ := Outcome.bind_eq_ok hd
    injection hv with hv
    injection hd with hd
    rw [← hv, ← hd]
    exact allMatch_ofColumns branches hvectors hnatives
  | foreign name => contradiction
  | _ =>
    apply matches_ofColumn_of_isLeaf _ hv hd
    exact trivial

/-- The vectors of columns match the declared types of the columns. -/
theorem allMatch_ofColumns (fields : List (String × ColumnType)) {columns : List ColumnData}
    {vectors : List ColumnVector} {declared : List (String × NativeType)}
    (hv : ofColumns fields columns = .ok vectors)
    (hd : NativeType.ofColumns fields = .ok declared) :
    AllMatch LeafCells.IsKindOf vectors (declared.map (·.2)) := by
  match fields, columns with
  | [], [] =>
    injection hv with hv
    injection hd with hd
    rw [← hv, ← hd]
    exact trivial
  | [], _ :: _ => contradiction
  | _ :: _, [] => contradiction
  | (name, type) :: fields, column :: columns =>
    obtain ⟨vector, hfirst, hv⟩ := Outcome.bind_eq_ok hv
    obtain ⟨others, hothers, hv⟩ := Outcome.bind_eq_ok hv
    obtain ⟨native, hnative, hd⟩ := Outcome.bind_eq_ok hd
    obtain ⟨natives, hnatives, hd⟩ := Outcome.bind_eq_ok hd
    injection hv with hv
    injection hd with hd
    rw [← hv, ← hd]
    exact ⟨matches_ofColumn type hfirst hnative, allMatch_ofColumns fields hothers hnatives⟩

end

end ColumnVector

end OrcRows
