import OrcRows.Proofs.Picked
import OrcRows.Proofs.Session.Typing
import OrcRows.Proofs.Session.Planning

/-!
# Plans of some columns

The names of a request lead to declared types, to the types that columns are given and to the columns
of a plan. Names that are picked from all names of a file lead to what is picked from there.
-/

namespace OrcRows

section Types

variable {places : List Nat} {file : NativeType}

namespace NativeType

/-- Types of columns for which nothing is asked are found one by one. -/
theorem columnTypes_nil (file : NativeType) (names : List String) :
    file.columnTypes names [] = names.mapM fun name => file.columnType name none := by
  induction names with
  | nil => rfl
  | cons name rest ih =>
    rw [columnTypes, List.mapM_cons, List.tail_nil, ih]
    rfl

/-- Types of columns for each of which a type is asked are found one by one. -/
theorem columnTypes_zip (file : NativeType) {names : List String} {targets : List UnifiedType}
    (h : names.length ≤ targets.length) :
    file.columnTypes names targets =
      (names.zip targets).mapM fun pair => file.columnType pair.1 (some pair.2) := by
  induction names generalizing targets with
  | nil => rfl
  | cons name rest ih =>
    cases targets with
    | nil => simp at h
    | cons target targets =>
      rw [columnTypes, List.zip_cons_cons, List.mapM_cons, List.tail_cons,
        ih (Nat.le_of_succ_le_succ h)]
      rfl

/-- The types of picked columns are the picked types, if nothing is asked for, or a type for every
column. -/
theorem columnTypes_picked {names : List String} {targets types : List UnifiedType}
    (h : file.columnTypes names targets = .ok types)
    (asked : targets = [] ∨ names.length ≤ targets.length)
    (inside : ∀ place ∈ places, place < names.length) :
    file.columnTypes (picked places names) (picked places targets) =
      .ok (picked places types) := by
  rcases asked with nothing | covered
  · have hnone : picked places targets = [] := by simp [picked, nothing]
    rw [nothing, columnTypes_nil] at h
    rw [hnone, columnTypes_nil]
    exact mapM_picked h inside
  · have inside' : ∀ place ∈ places, place < targets.length :=
      fun place member => Nat.lt_of_lt_of_le (inside place member) covered
    have hpaired : ∀ place ∈ places, place < (names.zip targets).length := by
      intro place member
      rw [List.length_zip, Nat.min_eq_left covered]
      exact inside place member
    have hlength : (picked places names).length ≤ (picked places targets).length := by
      rw [length_picked inside, length_picked inside']
    rw [columnTypes_zip file covered] at h
    rw [columnTypes_zip file hlength, ← picked_zip inside inside']
    exact mapM_picked h hpaired

/-- Without selected columns all columns are selected. -/
theorem selection_of_none (file : NativeType) {selected : Option (List String)}
    (h : selected.getD [] = []) : file.selection selected = file.fieldNames := by
  cases selected with
  | none => rfl
  | some columns =>
    obtain rfl : columns = [] := h
    rfl

/-- Selected columns are the selection, if there are any. -/
theorem selection_of_some (file : NativeType) {columns : List String} (h : columns ≠ []) :
    file.selection (some columns) = columns := by
  cases columns with
  | nil => exact absurd rfl h
  | cons first rest => rfl

end NativeType

/-- The schema of picked columns has the picked fields. -/
theorem NativeType.inferSchema_picked {target target' : Option Schema}
    {selected : Option (List String)} {schema : Schema}
    (h : file.inferSchema target selected = .ok schema) (all : selected.getD [] = [])
    (covered : ∀ wanted, target = some wanted → file.fieldNames.length ≤ wanted.width)
    (asked : target'.map (·.fields) = target.map fun wanted => picked places wanted.fields)
    (inside : ∀ place ∈ places, place < file.fieldNames.length) (distinct : places.Nodup)
    (some_places : places ≠ []) :
    ∃ schema', file.inferSchema target' (some (picked places file.fieldNames)) = .ok schema' ∧
      schema'.fields = picked places schema.fields := by
  obtain ⟨types, htypes, hs⟩ := Outcome.bind_eq_ok h
  obtain ⟨hlength, hfields⟩ := Schema.fields_of hs
  rw [file.selection_of_none all] at htypes hs hlength hfields
  have htargets : (target'.map (·.types)).getD [] =
      picked places ((target.map (·.types)).getD []) := by
    cases target with
    | none =>
      cases target' with
      | none => simp [picked]
      | some wanted' => cases asked
    | some wanted =>
      cases target' with
      | none => cases asked
      | some wanted' =>
        have same : wanted'.fields = picked places wanted.fields := Option.some_inj.mp asked
        simp only [Option.map_some, Option.getD_some, Schema.types, same, picked_map]
  have hasked : (target.map (·.types)).getD [] = [] ∨
      file.fieldNames.length ≤ ((target.map (·.types)).getD []).length := by
    cases target with
    | none => exact .inl rfl
    | some wanted => exact .inr (by simpa [Schema.types, Schema.width] using covered wanted rfl)
  have hne : picked places file.fieldNames ≠ [] := by
    rw [← List.length_pos_iff, length_picked inside]
    exact List.length_pos_iff.mpr some_places
  have hpicked := columnTypes_picked htypes hasked inside
  have inside' : ∀ place ∈ places, place < types.length :=
    fun place member => hlength ▸ inside place member
  obtain ⟨schema', hs', hfields'⟩ := Schema.exists_of (picked places file.fieldNames)
    (picked places types) (by rw [length_picked inside, length_picked inside'])
    (nodup_picked (Schema.nodup_of hs) distinct)
  refine ⟨schema', ?_, ?_⟩
  · rw [inferSchema, file.selection_of_some hne, htargets]
    simp only [hpicked, Outcome.ok_bind, hs']
  · rw [hfields', hfields, picked_zip inside inside']

/-- Partitions that go with all columns go with picked ones. -/
theorem Schema.withPartitions_picked {columns columns' schema : Schema} {names : List String}
    (h : columns.withPartitions names = .ok schema)
    (hfields : columns'.fields = picked places columns.fields) :
    ∃ schema', columns'.withPartitions names = .ok schema' ∧
      schema'.fields = picked places columns.fields ++ schema.fields.drop columns.width := by
  have hwhole := fields_withPartitions h
  have hnames' : columns'.names = picked places columns.names := by
    rw [Schema.names, Schema.names, hfields, picked_map]
  have hsubset : columns'.names ⊆ columns.names := hnames' ▸ picked_subset _ _
  have hfresh : ∀ name ∈ names, columns.names.contains name = false := by
    rw [withPartitions] at h
    split at h
    · cases h
    · rename_i hnone
      intro name member
      simpa using List.find?_eq_none.mp hnone name member
  have hfresh' : names.find? columns'.names.contains = none := by
    refine List.find?_eq_none.mpr fun name member clash => ?_
    have known := List.contains_iff_mem.mp clash
    have absent := hfresh name member
    rw [List.contains_iff_mem.mpr (hsubset known)] at absent
    cases absent
  have hschemaNames : schema.names = columns.names ++ names := by
    rw [Schema.names, hwhole, List.map_append, List.map_map]
    exact congrArg (columns.names ++ ·) (List.map_id' names)
  have hdistinct : (columns'.names ++ names).Nodup := by
    have hall : (columns.names ++ names).Nodup := hschemaNames ▸ schema.distinct
    rw [List.nodup_append] at hall ⊢
    exact ⟨columns'.distinct, hall.2.1, fun name known other member =>
      hall.2.2 name (hsubset known) other member⟩
  obtain ⟨schema', hs', hfields'⟩ := Schema.exists_of (columns'.names ++ names)
    (columns'.types ++ names.map fun _ => .basic .string)
    (by simp [Schema.names, Schema.types]) hdistinct
  have given : columns'.withPartitions names = .ok schema' := by
    rw [withPartitions, hfresh']
    exact hs'
  refine ⟨schema', given, ?_⟩
  rw [fields_withPartitions given, hfields, hwhole, Schema.width, List.drop_left]

/-- Columns are planned under their names. -/
theorem Session.names_of_planColumns {native : NativeType} {columns : Schema}
    {planned : List PlanColumn} (h : planColumns native columns = .ok planned) :
    planned.map (·.name) = columns.names := by
  have hlength := Outcome.length_of_mapM_eq_ok h
  apply List.ext_getElem (by simpa [Schema.names] using hlength)
  intro place inside inside'
  have within : place < columns.fields.length := by simpa [Schema.names] using inside'
  obtain ⟨column, hplace, hcolumn⟩ :=
    Outcome.getElem?_of_mapM_eq_ok h (List.getElem?_eq_getElem within)
  obtain ⟨declared, _, hcolumn⟩ := Outcome.bind_eq_ok hcolumn
  obtain ⟨child, _, hcolumn⟩ := Outcome.bind_eq_ok hcolumn
  injection hcolumn with same
  have found : planned[place] = column := (List.getElem?_eq_some_iff.mp hplace).2
  simp only [List.getElem_map, Schema.names, found, ← same]
  rfl

/-- The plan of picked columns has the picked columns. -/
theorem Session.planColumns_picked {native : NativeType} {columns columns' : Schema}
    {planned : List PlanColumn} (h : planColumns native columns = .ok planned)
    (hfields : columns'.fields = picked places columns.fields)
    (inside : ∀ place ∈ places, place < columns.width) :
    planColumns native columns' = .ok (picked places planned) := by
  rw [planColumns, hfields]
  exact mapM_picked h inside

end Types

end OrcRows
