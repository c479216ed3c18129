import OrcRows.Proofs.Mapping.Throughout

/-!
# The shape of what is given

What is asked for decides between the types that a leaf may be read as, and never what the leaves
are the leaves of: an array is given for a list, a map for a map, and for a struct a row of its
names. Nor does it decide whether anything is given at all, as long as the elements of lists are
leaves that arrays may have by themselves.
-/

namespace OrcRows

namespace NativeType

/-- A leaf may be read as a type: its own type converts to it, or it is the time of a timestamp. -/
def LeafAdmits (declared : NativeType) (type : UnifiedType) : Prop :=
  (∃ own, declared.leafType? = some own ∧ UnifiedType.canConvert own type = .ok true) ∨
    declared.category = .timestamp ∧ type = .basic .time

mutual

/-- A type has the shape of a declared type, and its leaves are such as the declared leaves may be
read as. -/
def HasShape (declared : NativeType) (type : UnifiedType) : Prop :=
  match declared with
  | node category children fieldNames _ _ =>
    match category, children with
    | .list, element :: _ => ∃ inner, type = .array inner ∧ element.HasShape inner
    | .map, key :: value :: _ =>
      ∃ keyType valueType, type = .map keyType valueType ∧ key.HasShape keyType ∧
        value.HasShape valueType
    | .struct, fields =>
      ∃ types, type = .row (fieldNames.zip types) ∧ fieldNames.length = types.length ∧
        HaveShapes fields types
    | _, _ => declared.LeafAdmits type

/-- Types have the shapes of as many declared types. -/
def HaveShapes : List NativeType → List UnifiedType → Prop
  | [], types => types = []
  | declared :: rest, types =>
    ∃ type others, types = type :: others ∧ declared.HasShape type ∧ HaveShapes rest others

end

/-- The element is a leaf whose own type arrays may have if a type is a list. -/
def HoldsElementLeaf (declared : NativeType) : Prop :=
  declared.category = .list →
    ∀ element ∈ declared.children.head?, ∃ own ∈ UnifiedType.elementTypes,
      element.leafType? = some own

/-- A leaf has the shape of the types that it may be read as. -/
theorem hasShape_of_leafAdmits {declared : NativeType} {own type : UnifiedType}
    (kind : declared.leafType? = some own) (h : declared.LeafAdmits type) :
    declared.HasShape type := by
  obtain ⟨category, children, fieldNames, precision, scale⟩ := declared
  rw [HasShape.eq_def]
  cases category with
  | list | map | struct | union => contradiction
  | _ => exact h

mutual

/-- Nothing that is given anything has a union where mapping comes to. -/
theorem IsGiven.throughout_ne_union {declared : NativeType} {target : Option UnifiedType}
    {unified : UnifiedType} (h : declared.IsGiven target unified) :
    declared.Throughout (·.category ≠ .union) := by
  cases h with
  | time asked => exact throughout_of_leafType? rfl nofun
  | leaf kind timeless granted =>
    refine throughout_of_leafType? kind fun union => ?_
    obtain ⟨category, children, fieldNames, precision, scale⟩ := declared
    cases union
    contradiction
  | list given allowed =>
    rw [Throughout.eq_def]
    exact ⟨nofun, given.throughout_ne_union⟩
  | map givenKey givenValue =>
    rw [Throughout.eq_def]
    exact ⟨nofun, givenKey.throughout_ne_union, givenValue.throughout_ne_union⟩
  | struct given covered distinct =>
    rw [Throughout.eq_def]
    exact ⟨nofun, given.allThroughout_ne_union⟩

/-- Types that are given anything have no union where mapping comes to. -/
theorem AreGiven.allThroughout_ne_union {declared : List NativeType}
    {targets types : List UnifiedType} (h : AreGiven declared targets types) :
    AllThroughout (·.category ≠ .union) declared := by
  cases h with
  | nil => trivial
  | cons first others => exact ⟨first.throughout_ne_union, others.allThroughout_ne_union⟩

end

mutual

/-- What is given has the shape of what is declared. -/
theorem IsGiven.hasShape {declared : NativeType} {target : Option UnifiedType}
    {unified : UnifiedType} (h : declared.IsGiven target unified) : declared.HasShape unified := by
  cases h with
  | time asked => exact hasShape_of_leafAdmits rfl (.inr ⟨rfl, rfl⟩)
  | leaf kind timeless granted =>
    exact hasShape_of_leafAdmits kind
      (.inl ⟨_, kind, UnifiedType.canConvert_of_finalType granted⟩)
  | list given allowed =>
    rw [HasShape.eq_def]
    exact ⟨_, rfl, given.hasShape⟩
  | map givenKey givenValue =>
    rw [HasShape.eq_def]
    exact ⟨_, _, rfl, givenKey.hasShape, givenValue.hasShape⟩
  | struct given covered distinct =>
    rw [HasShape.eq_def]
    exact ⟨_, rfl, covered, given.haveShapes⟩

/-- What is given has the shapes of what is declared. -/
theorem AreGiven.haveShapes {declared : List NativeType} {targets types : List UnifiedType}
    (h : AreGiven declared targets types) : HaveShapes declared types := by
  cases h with
  | nil => rfl
  | cons first others => exact ⟨_, _, rfl, first.hasShape, others.haveShapes⟩

end

mutual

/-- Arrays inside of what is given have elements of permitted types. -/
theorem IsGiven.permitsElements {declared : NativeType} {target : Option UnifiedType}
    {unified : UnifiedType} (h : declared.IsGiven target unified) :
    unified.Throughout UnifiedType.PermitsElement := by
  cases h with
  | time asked => exact UnifiedType.IsLeaf.throughout trivial nofun
  | leaf kind timeless granted =>
    have leaf := (isLeaf_of_leafType? kind).of_canConvert
      (UnifiedType.canConvert_of_finalType granted)
    exact leaf.throughout leaf.permitsElement
  | list given allowed =>
    refine ⟨?_, given.permitsElements⟩
    rintro element ⟨⟩
    exact UnifiedType.mem_elementTypes_iff.mpr allowed
  | map givenKey givenValue =>
    exact ⟨nofun, givenKey.permitsElements, givenValue.permitsElements⟩
  | struct given covered distinct =>
    refine ⟨nofun, UnifiedType.fieldsThroughout_iff.mpr ?_⟩
    rw [List.map_snd_zip (Nat.le_of_eq covered.symm)]
    exact given.permitElements

/-- Arrays inside of any of the types that are given have elements of permitted types. -/
theorem AreGiven.permitElements {declared : List NativeType} {targets types : List UnifiedType}
    (h : AreGiven declared targets types) :
    ∀ type ∈ types, type.Throughout UnifiedType.PermitsElement := by
  cases h with
  | nil => nofun
  | cons first others =>
    exact List.forall_mem_cons.mpr ⟨first.permitsElements, others.permitElements⟩

end

/-- A leaf whose own type arrays may have is given a type that arrays may have. -/
theorem IsGiven.mem_elementTypes {declared : NativeType} {target : Option UnifiedType}
    {own type : UnifiedType} (h : declared.IsGiven target type)
    (kind : declared.leafType? = some own) (permitted : own ∈ UnifiedType.elementTypes) :
    type ∈ UnifiedType.elementTypes := by
  cases h with
  | time asked =>
    injection kind with same
    rw [← same, UnifiedType.mem_elementTypes_iff] at permitted
    contradiction
  | leaf kind' timeless granted =>
    have converts := UnifiedType.canConvert_of_finalType granted
    rw [kind, Option.some_inj] at kind'
    exact UnifiedType.mem_elementTypes_of_canConvert permitted (kind' ▸ converts)
  | list | map | struct => contradiction

/-- The own type of a consistent leaf has its numbers. -/
theorem isNumbered_of_leafType? {declared : NativeType} {own : UnifiedType}
    (kind : declared.leafType? = some own) (wellFormed : declared.WellFormed) : own.IsNumbered := by
  obtain ⟨category, children, fieldNames, precision, scale⟩ := declared
  cases category with
  | list | map | struct | union => contradiction
  | decimal =>
    injection kind with same
    rw [WellFormed] at wellFormed
    exact same ▸ wellFormed.2.2
  | _ =>
    injection kind with same
    rw [← same]
    trivial

/-- A consistent leaf is given a type whatever is asked for. -/
theorem exists_isGiven_of_leafType? {declared : NativeType} {own : UnifiedType}
    {target : Option UnifiedType} (kind : declared.leafType? = some own)
    (wellFormed : declared.WellFormed)
    (numbered : ∀ asked ∈ target, asked.Throughout UnifiedType.IsNumbered) :
    ∃ unified, declared.IsGiven target unified := by
  by_cases timed : declared.category = .timestamp ∧ target.map (·.tag) = some .time
  · obtain ⟨category, children, fieldNames, precision, scale⟩ := declared
    obtain ⟨rfl, asked⟩ := timed
    exact ⟨_, .time asked⟩
  · obtain ⟨type, granted⟩ := (isLeaf_of_leafType? kind).finalType_isOk
      (isNumbered_of_leafType? kind wellFormed) fun asked hasked => (numbered asked hasked).here
    exact ⟨type, .leaf kind (not_and.mp timed) granted⟩

mutual

/-- A consistent type without unions, the elements of whose lists are leaves that arrays may have,
is given a type whatever is asked for. -/
theorem exists_isGiven {declared : NativeType} {target : Option UnifiedType}
    (wellFormed : declared.WellFormed)
    (plain : declared.Throughout fun part => part.category ≠ .union ∧ part.HoldsElementLeaf)
    (numbered : ∀ asked ∈ target, asked.Throughout UnifiedType.IsNumbered) :
    ∃ unified, declared.IsGiven target unified := by
  match declared with
  | node category children fieldNames precision scale =>
    cases hkind : (node category children fieldNames precision scale).leafType? with
    | some own => exact exists_isGiven_of_leafType? hkind wellFormed numbered
    | none =>
      rw [WellFormed.eq_def] at wellFormed
      rw [Throughout.eq_def] at plain
      obtain ⟨consistent, count⟩ := wellFormed
      obtain ⟨⟨unionless, elementLeaf⟩, within⟩ := plain
      cases category with
      | list =>
        match children with
        | [element] =>
          obtain ⟨own, permitted, kind⟩ := elementLeaf rfl element rfl
          obtain ⟨type, given⟩ := exists_isGiven_of_leafType? kind consistent.1
            (UnifiedType.throughout_bind .element numbered)
          have allowed := given.mem_elementTypes kind permitted
          exact ⟨_, .list given (UnifiedType.mem_elementTypes_iff.mp allowed)⟩
      | map =>
        match children with
        | [key, value] =>
          obtain ⟨keyType, givenKey⟩ :=
            exists_isGiven consistent.1 within.1 (UnifiedType.throughout_bind .key numbered)
          obtain ⟨valueType, givenValue⟩ :=
            exists_isGiven consistent.2.1 within.2 (UnifiedType.throughout_bind .value numbered)
          exact ⟨_, .map givenKey givenValue⟩
      | struct =>
        obtain ⟨types, given, hlength⟩ :=
          exists_areGiven consistent within (UnifiedType.throughout_fieldTypes numbered)
        exact ⟨_, .struct given (count.1.trans hlength) count.2⟩
      | union => exact absurd rfl unionless
      | _ => contradiction

/-- Consistent types like that are given as many types whatever is asked for. -/
theorem exists_areGiven {declared : List NativeType} {targets : List UnifiedType}
    (wellFormed : AllWellFormed declared)
    (plain : AllThroughout (fun part => part.category ≠ .union ∧ part.HoldsElementLeaf) declared)
    (numbered : ∀ asked ∈ targets, asked.Throughout UnifiedType.IsNumbered) :
    ∃ types, AreGiven declared targets types ∧ declared.length = types.length := by
  match declared with
  | [] => exact ⟨[], .nil, rfl⟩
  | first :: rest =>
    obtain ⟨type, given⟩ := exists_isGiven wellFormed.1 plain.1
      fun asked hasked => numbered asked (List.mem_of_mem_head? hasked)
    obtain ⟨types, others, hlength⟩ := exists_areGiven wellFormed.2 plain.2
      fun asked hasked => numbered asked (List.mem_of_mem_tail hasked)
    exact ⟨type :: types, .cons given others, congrArg (· + 1) hlength⟩

end

/-- What a type is given has the shape of the type, whatever is asked for: no node that mapping
comes to is a union, leaves are such as the declared leaves may be read as, and arrays have elements
of permitted types. And a consistent type without unions, the elements of whose lists are leaves that
arrays may have by themselves, is given a type whatever is asked for. -/
theorem unify_keeps_shape :
    (∀ (declared : NativeType) (target : Option UnifiedType) (unified : UnifiedType),
      declared.unify target = .ok unified →
        declared.Throughout (·.category ≠ .union) ∧ declared.HasShape unified ∧
          unified.Throughout UnifiedType.PermitsElement) ∧
    (∀ (declared : NativeType) (target : Option UnifiedType), declared.WellFormed →
      declared.Throughout (fun part => part.category ≠ .union ∧ part.HoldsElementLeaf) →
      (∀ asked ∈ target, asked.Throughout UnifiedType.IsNumbered) →
        ∃ unified, declared.unify target = .ok unified) := by
  constructor
  · intro declared target unified h
    have given := isGiven_of_unify h
    exact ⟨given.throughout_ne_union, given.hasShape, given.permitsElements⟩
  · intro declared target wellFormed plain numbered
    obtain ⟨unified, given⟩ := exists_isGiven wellFormed plain numbered
    exact ⟨unified, given.unify_eq_ok⟩

/-- A file of visits: when they were, the marks that were given and the shares of the shops. -/
def visits : NativeType :=
  .struct [("at", .primitive .timestamp), ("marks", .list (.primitive .tinyint)),
    ("shares", .map (.primitive .varchar) (.decimal (some 6) (some 2)))]

/-- What visits may be asked to be: a time, an array that arrays cannot be, and a row. -/
def visitsAsked : UnifiedType :=
  .row [("a", .basic .time), ("b", .array (.array (.basic .int))), ("c", .row [])]

/-- Visits keep their shape, and the time is granted. -/
theorem unify_keeps_shape_visits :
    (visits.unify (some visitsAsked) =
        .ok (.row [("at", .basic .time), ("marks", .array (.basic .tinyint)),
          ("shares", .map (.basic .string) (.decimal (some 6) (some 2)))]) ∧
      visits.HasShape (.row [("at", .basic .time), ("marks", .array (.basic .tinyint)),
        ("shares", .map (.basic .string) (.decimal (some 6) (some 2)))])) ∧
    ∃ unified, visits.unify (some (.array visitsAsked)) = .ok unified := by
  constructor
  · have given : visits.unify (some visitsAsked) =
      .ok (.row [("at", .basic .time), ("marks", .array (.basic .tinyint)),
        ("shares", .map (.basic .string) (.decimal (some 6) (some 2)))]) := rfl
    exact ⟨given, (unify_keeps_shape.1 _ _ _ given).2.1⟩
  · have wellFormed : visits.WellFormed := by
      simp [visits, WellFormed, AllWellFormed, struct, list, map, primitive, decimal]
    have plain : visits.Throughout fun part => part.category ≠ .union ∧ part.HoldsElementLeaf := by
      simp [visits, Throughout, AllThroughout, HoldsElementLeaf, struct, list, map, primitive,
        decimal, category, children, leafType?, Category.leafTag?, UnifiedType.elementTypes]
    have numbered : ∀ asked ∈ some (UnifiedType.array visitsAsked),
        asked.Throughout UnifiedType.IsNumbered := by
      simp [visitsAsked, UnifiedType.Throughout, UnifiedType.FieldsThroughout,
        UnifiedType.IsNumbered]
    exact unify_keeps_shape.2 _ _ wellFormed plain numbered

end NativeType

end OrcRows
