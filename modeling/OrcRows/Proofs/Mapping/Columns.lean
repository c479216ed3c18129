import OrcRows.Proofs.Mapping.Given

/-!
# Types of selected columns

A selected column is given what the declared type of the first column of its name is given, and the
columns of a selection are given their types one by one.
-/

namespace OrcRows

namespace NativeType

variable {file : NativeType}

/-- The type of a selected column is the one that its declared type is given. -/
theorem columnType_eq_ok {name : String} {target : Option UnifiedType} {type : UnifiedType}
    (h : file.columnType name target = .ok type) :
    ∃ declared, file.column? name = some (.ok declared) ∧ declared.unify target = .ok type := by
  rw [columnType] at h
  cases found : file.column? name with
  | none =>
    rw [found] at h
    cases h
  | some outcome =>
    rw [found] at h
    obtain ⟨declared, hd, h⟩ := Outcome.bind_eq_ok h
    refine ⟨declared, by rw [hd], ?_⟩
    cases hu : declared.unify target with
    | ok given =>
      rw [hu] at h
      exact h
    | error fault =>
      rw [hu] at h
      cases fault <;> cases h

/-- What the declared type of a selected column is given is the type of the column. -/
theorem columnType_of {name : String} {target : Option UnifiedType} {declared : NativeType}
    {type : UnifiedType} (found : file.column? name = some (.ok declared))
    (given : declared.unify target = .ok type) : file.columnType name target = .ok type := by
  rw [columnType, found]
  simp only [Outcome.ok_bind, given]

/-- The types of selected columns stand at the places of their names. -/
theorem columnTypes_eq_ok {names : List String} {targets types : List UnifiedType}
    (h : file.columnTypes names targets = .ok types) {place : Nat} {name : String}
    (hp : names[place]? = some name) :
    ∃ declared target type, types[place]? = some type ∧ file.column? name = some (.ok declared) ∧
      declared.unify target = .ok type := by
  induction names generalizing targets types place with
  | nil => simp at hp
  | cons first rest ih =>
    obtain ⟨type, htype, h⟩ := Outcome.bind_eq_ok h
    obtain ⟨others, hothers, h⟩ := Outcome.bind_eq_ok h
    injection h with same
    rw [← same]
    cases place with
    | zero =>
      rw [List.getElem?_cons_zero, Option.some_inj] at hp
      obtain ⟨declared, hd, hu⟩ := columnType_eq_ok htype
      exact ⟨declared, targets.head?, type, rfl, hp ▸ hd, hu⟩
    | succ place => exact ih hothers hp

/-- The fields of the schema of a file have the types that the declared types of their columns are
given. -/
theorem inferSchema_eq_ok {target : Option Schema} {selected : Option (List String)}
    {schema : Schema} (h : file.inferSchema target selected = .ok schema)
    {field : String × UnifiedType} (hf : field ∈ schema.fields) :
    ∃ declared asked, file.column? field.1 = some (.ok declared) ∧
      declared.unify asked = .ok field.2 := by
  obtain ⟨types, htypes, hs⟩ := Outcome.bind_eq_ok h
  obtain ⟨_, hfields⟩ := Schema.fields_of hs
  rw [hfields] at hf
  obtain ⟨place, hplace⟩ := List.mem_iff_getElem?.mp hf
  obtain ⟨hname, htype⟩ := List.getElem?_zip_eq_some.mp hplace
  obtain ⟨declared, asked, type, ht, hd, hu⟩ := columnTypes_eq_ok htypes hname
  rw [htype, Option.some_inj] at ht
  exact ⟨declared, asked, hd, ht ▸ hu⟩

end NativeType

end OrcRows
