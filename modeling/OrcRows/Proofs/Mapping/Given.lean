import OrcRows.Mapping
import OrcRows.Proofs.Outcome

/-!
# Which types are given

Mapping succeeds in five ways, two for leaves and one for each kind of composite.
`NativeType.IsGiven` lists them: what a type may be asked to be, what it is given then, and under
which conditions. Everything about types that are given is read off this list.
-/

namespace OrcRows

namespace Schema

/-- Names that are distinct make a schema with as many types. -/
theorem exists_of (names : List String) (types : List UnifiedType)
    (hlength : names.length = types.length) (distinct : names.Nodup) :
    ∃ schema, Schema.of names types = .ok schema ∧ schema.fields = names.zip types := by
  have hnames : ((names.zip types).map (·.1)).Nodup := by
    rwa [List.map_fst_zip (Nat.le_of_eq hlength)]
  exact ⟨⟨names.zip types, hnames⟩, by rw [Schema.of, if_pos hlength, dif_pos hnames], rfl⟩

section Made

variable {names : List String} {types : List UnifiedType} {schema : Schema}

/-- A schema has the names it is made of. -/
theorem names_of (made : Schema.of names types = .ok schema) : schema.names = names := by
  obtain ⟨hlength, hfields⟩ := fields_of made
  rw [Schema.names, hfields, List.map_fst_zip (Nat.le_of_eq hlength)]

/-- A schema has the types it is made of. -/
theorem types_of (made : Schema.of names types = .ok schema) : schema.types = types := by
  obtain ⟨hlength, hfields⟩ := fields_of made
  rw [Schema.types, hfields, List.map_snd_zip (Nat.le_of_eq hlength.symm)]

/-- The names that make a schema are distinct. -/
theorem nodup_of (made : Schema.of names types = .ok schema) : names.Nodup :=
  names_of made ▸ schema.distinct

end Made

end Schema

namespace NativeType

/-- The own type of a leaf. -/
def leafType? : NativeType → Option UnifiedType
  | node .timestamp _ _ _ _ => some (.basic .timestamp)
  | node .decimal _ _ precision scale => some (.decimal precision scale)
  | node category _ _ _ _ => category.leafTag?.map .basic

mutual

/-- The types that a declared type is given, depending on the type asked for. -/
inductive IsGiven : NativeType → Option UnifiedType → UnifiedType → Prop
  /-- A timestamp is given a time if one is asked for. -/
  | time {children : List NativeType} {fieldNames : List String} {precision scale : Option Int}
      {target : Option UnifiedType} (asked : target.map (·.tag) = some .time) :
      IsGiven (node .timestamp children fieldNames precision scale) target (.basic .time)
  /-- Any other leaf is given what is asked for if its own type converts to it. -/
  | leaf {declared : NativeType} {target : Option UnifiedType} {own unified : UnifiedType}
      (kind : declared.leafType? = some own)
      (timeless : declared.category = .timestamp → target.map (·.tag) ≠ some .time)
      (granted : own.finalType target = .ok unified) : IsGiven declared target unified
  /-- A list is given an array of what its element is given, if arrays may have it. -/
  | list {element : NativeType} {rest : List NativeType} {fieldNames : List String}
      {precision scale : Option Int} {target : Option UnifiedType} {type : UnifiedType}
      (given : IsGiven element (target.bind (·.element?)) type)
      (allowed : type.tag.isElementTag = true) :
      IsGiven (node .list (element :: rest) fieldNames precision scale) target (.array type)
  /-- A map is given a map of what its key and its value are given. -/
  | map {key value : NativeType} {rest : List NativeType} {fieldNames : List String}
      {precision scale : Option Int} {target : Option UnifiedType}
      {keyType valueType : UnifiedType}
      (givenKey : IsGiven key (target.bind (·.key?)) keyType)
      (givenValue : IsGiven value (target.bind (·.value?)) valueType) :
      IsGiven (node .map (key :: value :: rest) fieldNames precision scale) target
        (.map keyType valueType)
  /-- A struct is given a row of its names and of what its fields are given. -/
  | struct {children : List NativeType} {fieldNames : List String} {precision scale : Option Int}
      {target : Option UnifiedType} {types : List UnifiedType}
      (given : AreGiven children ((target.map (·.fieldTypes)).getD []) types)
      (covered : fieldNames.length = types.length) (distinct : fieldNames.Nodup) :
      IsGiven (node .struct children fieldNames precision scale) target
        (.row (fieldNames.zip types))

/-- The types that declared types are given, each depending on the type asked for at its place. -/
inductive AreGiven : List NativeType → List UnifiedType → List UnifiedType → Prop
  | nil {targets : List UnifiedType} : AreGiven [] targets []
  | cons {declared : NativeType} {rest : List NativeType} {targets types : List UnifiedType}
      {type : UnifiedType} (first : IsGiven declared targets.head? type)
      (others : AreGiven rest targets.tail types) :
      AreGiven (declared :: rest) targets (type :: types)

end

/-- A leaf without a request for a time of day is given what its own type is. -/
theorem unify_of_leafType? {declared : NativeType} {target : Option UnifiedType}
    {own : UnifiedType} (kind : declared.leafType? = some own)
    (timeless : declared.category = .timestamp → target.map (·.tag) ≠ some .time) :
    declared.unify target = own.finalType target := by
  obtain ⟨category, children, fieldNames, precision, scale⟩ := declared
  rw [unify.eq_def]
  cases category with
  | timestamp =>
    injection kind with same
    simp only [Category.leafTag?]
    rw [if_neg (timeless rfl), same]
  | decimal =>
    injection kind with same
    simp only [Category.leafTag?]
    rw [same]
  | list | map | struct | union => contradiction
  | _ =>
    injection kind with same
    exact congrArg (UnifiedType.finalType · target) same

mutual

/-- A type that is given is what mapping results in. -/
theorem IsGiven.unify_eq_ok {declared : NativeType} {target : Option UnifiedType}
    {unified : UnifiedType} (h : declared.IsGiven target unified) :
    declared.unify target = .ok unified := by
  cases h with
  | time asked =>
    rw [unify.eq_def]
    simp only [Category.leafTag?]
    rw [if_pos asked]
  | leaf kind timeless granted => rw [unify_of_leafType? kind timeless, granted]
  | list given allowed =>
    rw [unify.eq_def]
    simp only [Category.leafTag?]
    rw [given.unify_eq_ok, Outcome.ok_bind, arrayOf, if_pos allowed]
  | map givenKey givenValue =>
    rw [unify.eq_def]
    simp only [Category.leafTag?]
    rw [givenKey.unify_eq_ok, Outcome.ok_bind, givenValue.unify_eq_ok]
    rfl
  | struct given covered distinct =>
    obtain ⟨schema, hschema, hfields⟩ := Schema.exists_of _ _ covered distinct
    rw [unify.eq_def]
    simp only [Category.leafTag?]
    rw [given.unifyAll_eq_ok, Outcome.ok_bind, hschema, Outcome.ok_bind, Schema.toType, hfields]
    rfl

/-- Types that are given are what mapping results in. -/
theorem AreGiven.unifyAll_eq_ok {declared : List NativeType} {targets types : List UnifiedType}
    (h : AreGiven declared targets types) : unifyAll declared targets = .ok types := by
  cases h with
  | nil => rw [unifyAll]
  | cons first others =>
    rw [unifyAll, first.unify_eq_ok, Outcome.ok_bind, others.unifyAll_eq_ok]
    rfl

end

mutual

/-- Mapping results in a type that is given. -/
theorem isGiven_of_unify {declared : NativeType} {target : Option UnifiedType}
    {unified : UnifiedType} (h : declared.unify target = .ok unified) :
    declared.IsGiven target unified := by
  match declared with
  | node category children fieldNames precision scale =>
    cases hleaf : (node category children fieldNames precision scale).leafType? with
    | some own =>
      by_cases timed : category = .timestamp ∧ target.map (·.tag) = some .time
      · obtain ⟨rfl, asked⟩ := timed
        rw [unify.eq_def] at h
        simp only [Category.leafTag?] at h
        rw [if_pos asked] at h
        injection h with same
        exact same ▸ .time asked
      · have timeless := not_and.mp timed
        rw [unify_of_leafType? hleaf timeless] at h
        exact .leaf hleaf timeless h
    | none =>
      rw [unify.eq_def] at h
      cases category with
      | list =>
        match children with
        | [] => contradiction
        | element :: rest =>
          obtain ⟨type, hgiven, h⟩ := Outcome.bind_eq_ok h
          rw [arrayOf] at h
          split at h
          case isTrue allowed =>
            injection h with same
            exact same ▸ .list (isGiven_of_unify hgiven) allowed
          case isFalse refused =>
            obtain ⟨_, _, h⟩ := Outcome.bind_eq_ok h
            contradiction
      | map =>
        match children with
        | [] => contradiction
        | [key] =>
          obtain ⟨_, _, h⟩ := Outcome.bind_eq_ok h
          contradiction
        | key :: value :: rest =>
          obtain ⟨keyType, hkey, h⟩ := Outcome.bind_eq_ok h
          obtain ⟨valueType, hvalue, h⟩ := Outcome.bind_eq_ok h
          injection h with same
          exact same ▸ .map (isGiven_of_unify hkey) (isGiven_of_unify hvalue)
      | struct =>
        obtain ⟨types, htypes, h⟩ := Outcome.bind_eq_ok h
        obtain ⟨schema, hschema, h⟩ := Outcome.bind_eq_ok h
        obtain ⟨covered, hfields⟩ := Schema.fields_of hschema
        injection h with same
        rw [← same, Schema.toType, hfields]
        exact .struct (areGiven_of_unifyAll htypes) covered (Schema.nodup_of hschema)
      | _ => contradiction

/-- Mapping results in types that are given. -/
theorem areGiven_of_unifyAll {declared : List NativeType} {targets types : List UnifiedType}
    (h : unifyAll declared targets = .ok types) : AreGiven declared targets types := by
  match declared with
  | [] =>
    injection h with same
    exact same ▸ .nil
  | first :: rest =>
    obtain ⟨type, htype, h⟩ := Outcome.bind_eq_ok h
    obtain ⟨others, hothers, h⟩ := Outcome.bind_eq_ok h
    injection h with same
    exact same ▸ .cons (isGiven_of_unify htype) (areGiven_of_unifyAll hothers)

end

/-- Mapping results in exactly the types that are given. -/
theorem unify_eq_ok_iff {declared : NativeType} {target : Option UnifiedType}
    {unified : UnifiedType} :
    declared.unify target = .ok unified ↔ declared.IsGiven target unified :=
  ⟨isGiven_of_unify, IsGiven.unify_eq_ok⟩

end NativeType

end OrcRows
