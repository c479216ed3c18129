import OrcRows.Proofs.Session.Typing

/-!
# Where a projection finds its columns

A projection keeps some columns of a stripe in file order and finds each of its names among them.
Which column it finds depends on the names of the table and of the projection alone, so in every
stripe a name leads to the same place.
-/

namespace OrcRows.Table

variable {table : Table} {names : List String} {arrays : List ColumnData}

/-- The columns of a table under their names, with their types and places. -/
def located (table : Table) : List (String × ColumnType × Nat) :=
  table.fields.zipIdx.map fun ((name, type), place) => (name, type, place)

/-- The columns that a projection keeps; all if it asks for none. -/
def kept (table : Table) (names : List String) : List (String × ColumnType × Nat) :=
  table.located.filter fun column => names.isEmpty || names.contains column.1

/-- The type and the place of the column that a projection finds under a name: the only kept column
of the name, else the last kept column. -/
def found? (table : Table) (names : List String) (name : String) : Option (ColumnType × Nat) :=
  match (table.kept names).filter (·.1 == name) with
  | [column] => some column.2
  | _ => (table.kept names).getLast?.map (·.2)

/-- A located column stands at its place. -/
theorem mem_located {name : String} {type : ColumnType} {place : Nat} :
    (name, type, place) ∈ table.located ↔ table.fields[place]? = some (name, type) := by
  rw [located, List.mem_map, ← List.mem_zipIdx_iff_getElem? (x := ((name, type), place))]
  constructor
  · rintro ⟨entry, member, same⟩
    cases same
    exact member
  · exact fun member => ⟨_, member, rfl⟩

/-- A found column stands at its place, under the type that is found. -/
theorem getElem?_of_found? {name : String} {type : ColumnType} {place : Nat}
    (h : table.found? names name = some (type, place)) :
    ∃ other, table.fields[place]? = some (other, type) := by
  obtain ⟨column, member, same⟩ : ∃ column ∈ table.kept names, column.2 = (type, place) := by
    rw [found?] at h
    split at h
    case h_1 only hone =>
      injection h with same
      exact ⟨only, List.mem_of_mem_filter (hone ▸ List.mem_singleton_self only), same⟩
    case h_2 =>
      obtain ⟨last, hlast, same⟩ := Option.map_eq_some_iff.mp h
      exact ⟨last, List.mem_of_getLast? hlast, same⟩
  obtain ⟨other, found⟩ := column
  cases same
  exact ⟨other, mem_located.mp (List.mem_filter.mp member).1⟩

/-- A located column with the array at its place. -/
def withArray (arrays : List ColumnData) (column : String × ColumnType × Nat) :
    String × ColumnType × ColumnData :=
  (column.1, column.2.1, arrays[column.2.2]!)

/-- A stripe that has an array for every column has the arrays of the kept columns. -/
theorem columns_stripeBatch (h : arrays.length = table.fields.length) (names : List String) :
    (table.stripeBatch names arrays).columns = (table.kept names).map (withArray arrays) := by
  have hcolumns : ((table.fields.zip arrays).map fun pair => (pair.1.1, pair.1.2, pair.2)) =
      table.located.map (withArray arrays) := by
    apply List.ext_getElem
    · simp [located, h]
    · intro place inside inside'
      have harray : place < arrays.length := by simpa [located, h] using inside'
      simp [located, withArray, harray]
  rw [columns_stripeBatch_eq_ite, kept, hcolumns]
  by_cases empty : names.isEmpty = true
  · simp [empty]
  · simp only [Bool.not_eq_true] at empty
    simp only [empty, Bool.false_eq_true, if_false, Bool.false_or, List.filter_map]
    rfl

/-- The column of a name in a stripe is the one that the projection finds. -/
theorem column?_stripeBatch (h : arrays.length = table.fields.length) (name : String) :
    (table.stripeBatch names arrays).column? name =
      (table.found? names name).map fun found => (found.1, arrays[found.2]!) := by
  have hfilter : (table.stripeBatch names arrays).columns.filter (·.1 == name) =
      ((table.kept names).filter (·.1 == name)).map (withArray arrays) := by
    rw [columns_stripeBatch h, List.filter_map]
    rfl
  have hlast : ((table.stripeBatch names arrays).columns.getLast?.map (·.2)) =
      ((table.kept names).getLast?.map (·.2)).map fun found => (found.1, arrays[found.2]!) := by
    rw [columns_stripeBatch h, List.getLast?_map, Option.map_map, Option.map_map]
    rfl
  rw [RecordBatch.column?, hfilter, found?, hlast]
  -- one kept column of the name, or none or several
  cases (table.kept names).filter (·.1 == name) with
  | nil => rfl
  | cons first rest => cases rest <;> rfl

/-- The vector of a name in a stripe is made from the column that the projection finds. -/
theorem vector_stripeBatch (h : arrays.length = table.fields.length) {name : String}
    {type : ColumnType} {place : Nat} (found : table.found? names name = some (type, place)) :
    (table.stripeBatch names arrays).vector name = ColumnVector.ofColumn type arrays[place]! := by
  rw [RecordBatch.vector, column?_stripeBatch h, found]
  rfl

/-- As many kept columns have a name that is asked for as there are columns of the name. -/
theorem length_kept_of_name {name : String} (asked : name ∈ names) :
    ((table.kept names).filter (·.1 == name)).length = (table.fields.map (·.1)).count name := by
  have hkeys : table.located.map (·.1) = table.fields.map (·.1) := by
    apply List.ext_getElem
    · simp [located]
    · intro place inside inside'
      simp [located]
  have hkept : (table.kept names).filter (·.1 == name) = table.located.filter (·.1 == name) := by
    rw [kept, List.filter_filter]
    refine List.filter_congr fun column _ => ?_
    by_cases same : column.1 = name
    · simp [same, asked]
    · simp [same]
  rw [hkept, ← hkeys, List.count, List.countP_map, List.countP_eq_length_filter]
  rfl

/-- The only column of a name that is asked for is found at its place. -/
theorem found?_of_single {name : String} (single : (table.fields.map (·.1)).count name = 1)
    {type : ColumnType} {place : Nat} (known : table.fields[place]? = some (name, type))
    (asked : name ∈ names) : table.found? names name = some (type, place) := by
  have hmember : (name, type, place) ∈ (table.kept names).filter (·.1 == name) := by
    refine List.mem_filter.mpr ⟨List.mem_filter.mpr ⟨mem_located.mpr known, ?_⟩, beq_self_eq_true _⟩
    rw [List.contains_iff_mem.mpr asked, Bool.or_true]
  obtain ⟨only, hone⟩ := List.length_eq_one_iff.mp ((length_kept_of_name asked).trans single)
  rw [hone, List.mem_singleton] at hmember
  rw [found?, hone, ← hmember]

/-- Where no name occurs twice, the column of a name that is asked for is found at its place. -/
theorem found?_eq_some (distinct : (table.fields.map (·.1)).Nodup) {name : String}
    {type : ColumnType} {place : Nat} (known : table.fields[place]? = some (name, type))
    (asked : name ∈ names) : table.found? names name = some (type, place) :=
  found?_of_single (List.count_eq_one_of_mem distinct
    (List.mem_map_of_mem (List.mem_of_getElem? known))) known asked

/-- A stripe has the rows of its arrays if the projection keeps a column, and none otherwise. -/
theorem rows_stripeBatch (h : arrays.length = table.fields.length) {rows : Nat}
    (even : ∀ array ∈ arrays, array.length = rows) (names : List String) :
    (table.stripeBatch names arrays).rows = if (table.kept names).isEmpty then 0 else rows := by
  rw [RecordBatch.rows, columns_stripeBatch h]
  cases hkept : table.kept names with
  | nil => rfl
  | cons column rest =>
    have member : column ∈ table.kept names := hkept ▸ List.mem_cons_self
    have inside : column.2.2 < arrays.length := by
      have hfield := mem_located.mp (List.mem_filter.mp member).1
      exact h ▸ (List.getElem?_eq_some_iff.mp hfield).1
    have harray : arrays[column.2.2]! ∈ arrays := by
      rw [getElem!_pos arrays column.2.2 inside]
      exact List.getElem_mem inside
    exact even _ harray

/-- A projection that asks for a column of the table keeps a column. -/
theorem kept_ne_nil {name : String} (known : name ∈ table.fields.map (·.1))
    (asked : name ∈ names) : table.kept names ≠ [] := by
  obtain ⟨field, member, rfl⟩ := List.mem_map.mp known
  obtain ⟨place, hplace⟩ := List.mem_iff_getElem?.mp member
  apply List.ne_nil_of_mem (a := (field.1, field.2, place))
  refine List.mem_filter.mpr ⟨mem_located.mpr hplace, ?_⟩
  rw [List.contains_iff_mem.mpr asked, Bool.or_true]

/-- A projection repeats no name of a table in which no name occurs twice. -/
theorem repeats_of_distinct (distinct : (table.fields.map (·.1)).Nodup) (names : List String) :
    table.repeats names = false := by
  refine List.any_eq_false.mpr fun name _ => ?_
  simpa using List.nodup_iff_count_le_one.mp distinct name

/-- A projection that repeats a name keeps a column. -/
theorem kept_ne_nil_of_repeats (repeated : table.repeats names = true) : table.kept names ≠ [] := by
  obtain ⟨name, asked, several⟩ := List.any_eq_true.mp repeated
  exact kept_ne_nil (List.count_pos_iff.mp (Nat.zero_lt_of_lt (of_decide_eq_true several))) asked

/-- A table is rectangular if every stripe that can be read has an array for every column, all of
one length. -/
structure IsRectangular (table : Table) : Prop where
  /-- Every stripe has as many arrays as there are columns. -/
  complete : ∀ arrays, .ok arrays ∈ table.stripes → arrays.length = table.fields.length
  /-- The arrays of a stripe have one length. -/
  even : ∀ arrays, .ok arrays ∈ table.stripes → ∀ array ∈ arrays, ∀ other ∈ arrays,
    array.length = other.length

/-- The arrays of a stripe have some length. -/
theorem IsRectangular.exists_rows (rectangular : table.IsRectangular)
    (stripe : .ok arrays ∈ table.stripes) : ∃ rows, ∀ array ∈ arrays, array.length = rows := by
  cases arrays with
  | nil => exact ⟨0, fun _ member => absurd member List.not_mem_nil⟩
  | cons first rest =>
    exact ⟨first.length, fun array member =>
      rectangular.even _ stripe array member first List.mem_cons_self⟩

end OrcRows.Table
