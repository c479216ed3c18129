import OrcRows.Proofs.Mapping.Given

/-!
# What a request for other types can lead to

A request is granted leaf by leaf, so the type of a leaf is its own type or one that its own type
converts to. The lemmas read this off for each category of leaf, and take the type of a composite
apart into the types of its parts.
-/

namespace OrcRows

namespace UnifiedType

/-- Only text has the tag of text. -/
theorem eq_text_of_tag {type : UnifiedType} (h : type.tag = .string) : type = .basic .string := by
  cases type with
  | basic tag => exact congrArg _ h
  | decimal precision scale => contradiction
  | array element => contradiction
  | map key value => contradiction
  | row fields => contradiction

/-- The types of the fields of a row are those it is made of. -/
theorem fieldTypes_zip {names : List String} {types : List UnifiedType}
    (covered : names.length = types.length) : (row (names.zip types)).fieldTypes = types :=
  List.map_snd_zip (Nat.le_of_eq covered.symm)

/-- Every type converts to itself. -/
theorem canConvert_self (type : UnifiedType) : canConvert type type = .ok true := by
  rw [canConvert.eq_def, if_pos (.inl rfl)]

/-- A leaf type converts to itself, to text, and to the types that it widens to. -/
theorem canConvert_basic {tag : TypeTag} {target : UnifiedType}
    (h : canConvert (.basic tag) target = .ok true) :
    target = .basic tag ∨ target = .basic .string ∨
      ∃ wider, target = .basic wider ∧ tag.widens wider = true := by
  rw [canConvert.eq_def] at h
  split at h
  case isTrue same =>
    rcases same with same | text
    · exact .inl same.symm
    · exact .inr (.inl (eq_text_of_tag text))
  case isFalse differ =>
    cases target with
    | basic wider => exact .inr (.inr ⟨wider, rfl, by simpa using h⟩)
    | decimal precision scale => simp at h
    | array element => simp at h
    | map key value => simp at h
    | row fields => simp at h

/-- A decimal type converts to itself, to text, and to decimal types with room for its integer
digits and its scale. -/
theorem canConvert_decimal {precision scale : Int} {target : UnifiedType}
    (h : canConvert (.decimal (some precision) (some scale)) target = .ok true) :
    target = .basic .string ∨
      ∃ precision' scale', target = .decimal (some precision') (some scale') ∧ scale ≤ scale' ∧
        precision - scale ≤ precision' - scale' := by
  rw [canConvert.eq_def] at h
  split at h
  case isTrue same =>
    rcases same with same | text
    · exact .inr ⟨precision, scale, same.symm, Int.le_refl _, Int.le_refl _⟩
    · exact .inl (eq_text_of_tag text)
  case isFalse differ =>
    cases target with
    | basic wider => simp at h
    | decimal precision' scale' =>
      cases scale' with
      | none => simp [decimalWidens] at h
      | some scale' =>
        simp only [decimalWidens] at h
        split at h
        case isTrue finer =>
          cases precision' with
          | none => simp at h
          | some precision' =>
            exact .inr ⟨precision', scale', rfl, finer, by simpa using h⟩
        case isFalse coarser => simp at h
    | array element => simp at h
    | map key value => simp at h
    | row fields => simp at h

/-- The type a column is given is one to which its own type converts. -/
theorem canConvert_of_finalType {declared unified : UnifiedType} {target : Option UnifiedType}
    (h : declared.finalType target = .ok unified) : canConvert declared unified = .ok true := by
  cases target with
  | none =>
    injection h with same
    exact same ▸ canConvert_self declared
  | some wanted =>
    obtain ⟨granted, hc, hw⟩ := Outcome.bind_eq_ok h
    cases granted with
    | true =>
      injection hw with same
      exact same ▸ hc
    | false =>
      injection hw with same
      exact same ▸ canConvert_self declared

/-- A type is granted what it converts to. -/
theorem finalType_of_canConvert {own wanted : UnifiedType}
    (h : canConvert own wanted = .ok true) : own.finalType (some wanted) = .ok wanted := by
  rw [finalType, h]
  rfl

end UnifiedType

namespace NativeType

variable {category : Category} {children : List NativeType} {fieldNames : List String}
  {precision scale : Option Int} {target : Option UnifiedType} {unified : UnifiedType}

/-- A leaf of a category with a type of its own is given a type that this one converts to. -/
theorem canConvert_of_unify_leaf {tag : TypeTag} (ht : category.leafTag? = some tag)
    (h : unify (node category children fieldNames precision scale) target = .ok unified) :
    UnifiedType.canConvert (.basic tag) unified = .ok true := by
  rw [unify.eq_def] at h
  simp only [ht] at h
  exact UnifiedType.canConvert_of_finalType h

/-- A leaf of text is given text, whatever is asked for. -/
theorem unify_text (ht : category.leafTag? = some .string)
    (h : unify (node category children fieldNames precision scale) target = .ok unified) :
    unified = .basic .string := by
  rcases UnifiedType.canConvert_basic (canConvert_of_unify_leaf ht h) with same | text | wide
  · exact same
  · exact text
  · obtain ⟨wider, _, hw⟩ := wide
    cases wider <;> contradiction

/-- A timestamp is given a time if one is asked for, else a type that timestamps convert to. -/
theorem unify_timestamp
    (h : unify (node .timestamp children fieldNames precision scale) target = .ok unified) :
    unified = .basic .time ∨ UnifiedType.canConvert (.basic .timestamp) unified = .ok true := by
  cases isGiven_of_unify h with
  | time asked => exact .inl rfl
  | leaf kind _ granted =>
    injection kind with same
    exact .inr (same ▸ UnifiedType.canConvert_of_finalType granted)

/-- A decimal is given a type that its own decimal type converts to. -/
theorem unify_decimal
    (h : unify (node .decimal children fieldNames precision scale) target = .ok unified) :
    UnifiedType.canConvert (.decimal precision scale) unified = .ok true := by
  cases isGiven_of_unify h with
  | leaf kind _ granted =>
    injection kind with same
    exact same ▸ UnifiedType.canConvert_of_finalType granted

/-- A list is given an array of what its element is given. -/
theorem unify_list {element : NativeType} {rest : List NativeType}
    (h : unify (node .list (element :: rest) fieldNames precision scale) target = .ok unified) :
    ∃ elementTarget type, unify element elementTarget = .ok type ∧ unified = .array type ∧
      type.tag.isElementTag = true := by
  cases isGiven_of_unify h with
  | leaf kind _ _ => contradiction
  | list given allowed => exact ⟨_, _, given.unify_eq_ok, rfl, allowed⟩

/-- A map is given a map of what its key and its value are given. -/
theorem unify_map {key value : NativeType} {rest : List NativeType}
    (h : unify (node .map (key :: value :: rest) fieldNames precision scale) target =
      .ok unified) :
    ∃ keyTarget valueTarget keyType valueType, unify key keyTarget = .ok keyType ∧
      unify value valueTarget = .ok valueType ∧ unified = .map keyType valueType := by
  cases isGiven_of_unify h with
  | leaf kind _ _ => contradiction
  | map givenKey givenValue =>
    exact ⟨_, _, _, _, givenKey.unify_eq_ok, givenValue.unify_eq_ok, rfl⟩

/-- A struct is given a row of its names and of what its fields are given. -/
theorem unify_struct
    (h : unify (node .struct children fieldNames precision scale) target = .ok unified) :
    ∃ targets types, unifyAll children targets = .ok types ∧
      fieldNames.length = types.length ∧ unified = .row (fieldNames.zip types) := by
  cases isGiven_of_unify h with
  | leaf kind _ _ => contradiction
  | struct given covered _ => exact ⟨_, _, given.unifyAll_eq_ok, covered, rfl⟩

/-- Types of several columns are found one by one. -/
theorem unifyAll_cons {declared : NativeType} {rest : List NativeType}
    {targets types : List UnifiedType} (h : unifyAll (declared :: rest) targets = .ok types) :
    ∃ type others, unify declared targets.head? = .ok type ∧
      unifyAll rest targets.tail = .ok others ∧ types = type :: others := by
  cases areGiven_of_unifyAll h with
  | cons first others => exact ⟨_, _, first.unify_eq_ok, others.unifyAll_eq_ok, rfl⟩

/-- No type can be given to a union. -/
theorem unify_union_ne_ok
    (h : unify (node .union children fieldNames precision scale) target = .ok unified) : False := by
  cases isGiven_of_unify h with
  | leaf kind _ _ => contradiction

end NativeType

end OrcRows
