import OrcRows.Proofs.Mapping

/-!
# Conditions throughout types, and leaves

A condition may hold of a type and of all types inside it, and of all nodes of a declared type that
mapping comes to. Leaves have nothing inside, convert to leaves only, and are given a type whatever
is asked for.
-/

namespace OrcRows

namespace UnifiedType

mutual

/-- A condition holds of a type and of every type inside it. -/
def Throughout (condition : UnifiedType → Prop) : UnifiedType → Prop
  | basic tag => condition (basic tag)
  | decimal precision scale => condition (decimal precision scale)
  | array element => condition (array element) ∧ element.Throughout condition
  | map key value =>
    condition (map key value) ∧ key.Throughout condition ∧ value.Throughout condition
  | row fields => condition (row fields) ∧ FieldsThroughout condition fields

/-- A condition holds of the types of all fields and of every type inside them. -/
def FieldsThroughout (condition : UnifiedType → Prop) : List (String × UnifiedType) → Prop
  | [] => True
  | (_, type) :: rest => type.Throughout condition ∧ FieldsThroughout condition rest

end

/-- A precision and a scale are there if a type is a decimal type. -/
def IsNumbered : UnifiedType → Prop
  | decimal precision scale => precision.isSome ∧ scale.isSome
  | _ => True

/-- The types that elements of arrays may have. -/
def elementTypes : List UnifiedType :=
  [.basic .string, .basic .boolean, .basic .tinyint, .basic .smallint, .basic .int, .basic .bigint,
    .basic .float, .basic .double]

/-- Elements have one of the permitted types if a type is an array. -/
def PermitsElement (type : UnifiedType) : Prop :=
  ∀ element, type = .array element → element ∈ elementTypes

variable {condition : UnifiedType → Prop}

/-- What holds throughout a type holds of it. -/
theorem Throughout.here {type : UnifiedType} (h : type.Throughout condition) : condition type := by
  cases type with
  | basic tag => exact h
  | decimal precision scale => exact h
  | array element => exact h.1
  | map key value => exact h.1
  | row fields => exact h.1

/-- A condition holds throughout fields if it holds throughout each of their types. -/
theorem fieldsThroughout_iff {fields : List (String × UnifiedType)} :
    FieldsThroughout condition fields ↔ ∀ type ∈ fields.map (·.2), type.Throughout condition := by
  induction fields with
  | nil => simp [FieldsThroughout]
  | cons field rest ih =>
    rw [FieldsThroughout, ih, List.map_cons, List.forall_mem_cons]

/-- The permitted types of elements are those with a permitted tag. -/
theorem mem_elementTypes_iff {type : UnifiedType} :
    type ∈ elementTypes ↔ type.tag.isElementTag = true := by
  cases type with
  | basic tag => cases tag <;> simp [elementTypes, UnifiedType.tag, TypeTag.isElementTag]
  | decimal precision scale => simp [elementTypes, UnifiedType.tag, TypeTag.isElementTag]
  | array element => simp [elementTypes, UnifiedType.tag, TypeTag.isElementTag]
  | map key value => simp [elementTypes, UnifiedType.tag, TypeTag.isElementTag]
  | row fields => simp [elementTypes, UnifiedType.tag, TypeTag.isElementTag]

/-- Widening leads from permitted tags of elements to permitted ones. -/
theorem isElementTag_of_widens {tag wider : TypeTag} (h : tag.widens wider = true)
    (permitted : tag.isElementTag = true) : wider.isElementTag = true := by
  cases tag <;> cases wider <;> first | rfl | contradiction

/-- Permitted types of elements convert to permitted ones only. -/
theorem mem_elementTypes_of_canConvert {own type : UnifiedType} (permitted : own ∈ elementTypes)
    (h : canConvert own type = .ok true) : type ∈ elementTypes := by
  rw [mem_elementTypes_iff] at permitted ⊢
  cases own with
  | basic tag =>
    rcases canConvert_basic h with rfl | rfl | ⟨wider, rfl, hw⟩
    · exact permitted
    · rfl
    · exact isElementTag_of_widens hw permitted
  | _ => contradiction

/-- What holds throughout an array holds throughout its elements. -/
theorem Throughout.element {whole part : UnifiedType} (h : whole.Throughout condition)
    (inside : whole.element? = some part) : part.Throughout condition := by
  cases whole with
  | array element =>
    injection inside with same
    exact same ▸ h.2
  | _ => contradiction

/-- What holds throughout a map holds throughout its keys. -/
theorem Throughout.key {whole part : UnifiedType} (h : whole.Throughout condition)
    (inside : whole.key? = some part) : part.Throughout condition := by
  cases whole with
  | map key value =>
    injection inside with same
    exact same ▸ h.2.1
  | _ => contradiction

/-- What holds throughout a map holds throughout its values. -/
theorem Throughout.value {whole part : UnifiedType} (h : whole.Throughout condition)
    (inside : whole.value? = some part) : part.Throughout condition := by
  cases whole with
  | map key value =>
    injection inside with same
    exact same ▸ h.2.2
  | _ => contradiction

section Asked

variable {target : Option UnifiedType}

/-- What holds throughout what is asked for holds throughout what is asked for a part. -/
theorem throughout_bind {part? : UnifiedType → Option UnifiedType}
    (inside : ∀ {whole part}, Throughout condition whole → part? whole = some part →
      Throughout condition part)
    (h : ∀ asked ∈ target, asked.Throughout condition) :
    ∀ asked ∈ target.bind part?, asked.Throughout condition := by
  intro asked hasked
  obtain ⟨whole, hwhole, hpart⟩ := Option.bind_eq_some_iff.mp hasked
  exact inside (h whole hwhole) hpart

/-- What holds throughout what is asked for holds throughout what is asked for fields. -/
theorem throughout_fieldTypes (h : ∀ asked ∈ target, asked.Throughout condition) :
    ∀ asked ∈ (target.map (·.fieldTypes)).getD [], asked.Throughout condition := by
  cases target with
  | none => nofun
  | some whole =>
    have holds := h whole rfl
    cases whole with
    | row fields => exact fieldsThroughout_iff.mp holds.2
    | _ => nofun

end Asked

/-- A type has no types inside. -/
def IsLeaf : UnifiedType → Prop
  | basic _ | decimal _ _ => True
  | _ => False

/-- The permitted types of elements are leaves. -/
theorem isLeaf_of_mem_elementTypes {type : UnifiedType} (h : type ∈ elementTypes) :
    type.IsLeaf := by
  rw [mem_elementTypes_iff] at h
  cases type with
  | basic tag => trivial
  | _ => contradiction

/-- What holds of a leaf holds throughout it. -/
theorem IsLeaf.throughout {type : UnifiedType} (leaf : type.IsLeaf) (h : condition type) :
    type.Throughout condition := by
  cases type with
  | basic tag => exact h
  | decimal precision scale => exact h
  | _ => contradiction

/-- Leaves have no elements. -/
theorem IsLeaf.permitsElement {type : UnifiedType} (leaf : type.IsLeaf) : type.PermitsElement := by
  rintro element rfl
  contradiction

/-- Leaves convert to leaves only. -/
theorem IsLeaf.of_canConvert {own type : UnifiedType} (leaf : own.IsLeaf)
    (h : canConvert own type = .ok true) : type.IsLeaf := by
  rw [canConvert.eq_def] at h
  split at h
  case isTrue same =>
    rcases same with rfl | text
    · exact leaf
    · rw [eq_text_of_tag text]
      trivial
  case isFalse differ =>
    cases own with
    | basic tag =>
      cases type with
      | basic _ | decimal _ _ => trivial
      | _ => simp at h
    | decimal precision scale =>
      cases type with
      | basic _ | decimal _ _ => trivial
      | _ => simp at h
    | _ => contradiction

/-- Whether a leaf converts to a type is decided if the numbers of both are there. -/
theorem IsLeaf.canConvert_isOk {own wanted : UnifiedType} (leaf : own.IsLeaf)
    (numbered : own.IsNumbered) (wantedNumbered : wanted.IsNumbered) :
    ∃ granted, canConvert own wanted = .ok granted := by
  rw [canConvert.eq_def]
  split
  case isTrue same => exact ⟨true, rfl⟩
  case isFalse differ =>
    cases own with
    | basic tag => cases wanted <;> exact ⟨_, rfl⟩
    | decimal precision scale =>
      cases wanted with
      | decimal precision' scale' =>
        obtain ⟨p, rfl⟩ := Option.isSome_iff_exists.mp numbered.1
        obtain ⟨s, rfl⟩ := Option.isSome_iff_exists.mp numbered.2
        obtain ⟨p', rfl⟩ := Option.isSome_iff_exists.mp wantedNumbered.1
        obtain ⟨s', rfl⟩ := Option.isSome_iff_exists.mp wantedNumbered.2
        simp only [decimalWidens]
        split <;> exact ⟨_, rfl⟩
      | _ => exact ⟨false, rfl⟩
    | _ => contradiction

/-- A leaf is given a type whatever is asked for, if all numbers are there. -/
theorem IsLeaf.finalType_isOk {own : UnifiedType} {target : Option UnifiedType}
    (leaf : own.IsLeaf) (numbered : own.IsNumbered)
    (targetNumbered : ∀ wanted ∈ target, wanted.IsNumbered) :
    ∃ type, own.finalType target = .ok type := by
  cases target with
  | none => exact ⟨own, rfl⟩
  | some wanted =>
    obtain ⟨granted, hgranted⟩ := leaf.canConvert_isOk numbered (targetNumbered wanted rfl)
    rw [finalType, hgranted]
    cases granted <;> exact ⟨_, rfl⟩

end UnifiedType

namespace NativeType

mutual

/-- A condition holds of every node that mapping comes to: of a node itself and of the element of a
list, of the key and the value of a map, and of the fields of a struct. -/
def Throughout (condition : NativeType → Prop) (declared : NativeType) : Prop :=
  condition declared ∧
    match declared with
    | node category children _ _ _ =>
      match category, children with
      | .list, element :: _ => element.Throughout condition
      | .map, key :: value :: _ => key.Throughout condition ∧ value.Throughout condition
      | .struct, fields => AllThroughout condition fields
      | _, _ => True

/-- A condition holds of every node that mapping comes to in any of several types. -/
def AllThroughout (condition : NativeType → Prop) : List NativeType → Prop
  | [] => True
  | declared :: rest => declared.Throughout condition ∧ AllThroughout condition rest

end

variable {condition : NativeType → Prop}

/-- A condition holds throughout a leaf if it holds of it. -/
theorem throughout_of_leafType? {declared : NativeType} {own : UnifiedType}
    (kind : declared.leafType? = some own) (h : condition declared) :
    declared.Throughout condition := by
  obtain ⟨category, children, fieldNames, precision, scale⟩ := declared
  rw [Throughout.eq_def]
  cases category with
  | list | map | struct | union => contradiction
  | _ => exact ⟨h, trivial⟩

/-- The own type of a leaf has no types inside. -/
theorem isLeaf_of_leafType? {declared : NativeType} {own : UnifiedType}
    (kind : declared.leafType? = some own) : own.IsLeaf := by
  obtain ⟨category, children, fieldNames, precision, scale⟩ := declared
  cases category with
  | list | map | struct | union => contradiction
  | _ =>
    injection kind with same
    rw [← same]
    trivial

end NativeType

end OrcRows
