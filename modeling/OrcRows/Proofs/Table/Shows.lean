import OrcRows.Proofs.Table.Elements

/-!
# Rows that show elements

A row of a vector shows an element if the vector was laid out from a column with that element in the
row. What a row shows says what its vector is made of: which rows of the children show the members
of a list or a map, which vectors show the fields of a struct and which one the value of a union.
-/

namespace OrcRows

open Outcome

namespace ColumnVector

/-- A vector that was laid out from a column of a type shows the element in a row of the column. -/
def Shows (vector : ColumnVector) (type : ColumnType) (row : Nat) (element : Element) : Prop :=
  ∃ data all, ofColumn type data = .ok vector ∧ data.elements? type = some all ∧
    all[row]? = some element

/-- The vectors of fields show, at one row, the elements of the fields. -/
inductive AllShow (row : Nat) :
    List ColumnVector → List (String × ColumnType) → List Element → Prop
  | nil : AllShow row [] [] []
  | cons {vector : ColumnVector} {vectors : List ColumnVector} {field : String × ColumnType}
      {fields : List (String × ColumnType)} {element : Element} {elements : List Element}
      (first : vector.Shows field.2 row element) (rest : AllShow row vectors fields elements) :
      AllShow row (vector :: vectors) (field :: fields) (element :: elements)

end ColumnVector

section Missing

/-- An element is missing where the flag of its row says so. -/
def Element.IsFlagged (element : Element) (there : Option Bool) : Prop :=
  element = .missing ∧ there = some false ∨ element ≠ .missing ∧ there = some true

/-- The flags of leaf cells tell which elements are missing. -/
theorem isFlagged_of_ofCell {α : Type} {make : α → Element}
    (made : ∀ stored, make stored ≠ .missing) {cells : List (Option α)} {row : Nat}
    {element : Element}
    (h : (cells.map (Element.ofCell make))[row]? = some element) :
    element.IsFlagged (cells.map (·.isSome))[row]? := by
  rw [List.getElem?_map] at h
  obtain ⟨cell, hcell, rfl⟩ := Option.map_eq_some_iff.mp h
  rw [List.getElem?_map, hcell]
  cases cell with
  | none => exact .inl ⟨rfl, rfl⟩
  | some stored => exact .inr ⟨made stored, rfl⟩

/-- The flags of composite rows tell which elements are missing. -/
theorem isFlagged_of_rowElements {present : List Bool} {find : Nat → Option Element}
    {all : List Element} {row : Nat} {element : Element}
    (made : ∀ row, find row ≠ some .missing)
    (h : ColumnData.rowElements present find = some all) (he : all[row]? = some element) :
    element.IsFlagged present[row]? := by
  rcases (ColumnData.rowElements_eq_some h).2 row element he with ⟨hrow, same⟩ | ⟨hrow, found⟩
  · exact .inl ⟨same, hrow⟩
  · refine .inr ⟨?_, hrow⟩
    rintro rfl
    exact made row found

/-- The flags of a column tell which of its elements are missing. -/
theorem ColumnData.isFlagged_of_elements? {type : ColumnType} {data : ColumnData}
    {all : List Element} {row : Nat} {element : Element} (h : data.elements? type = some all)
    (he : all[row]? = some element) : element.IsFlagged data.presence[row]? := by
  cases type with
  | list type =>
    cases data <;> try contradiction
    obtain ⟨members, _, h⟩ := Option.bind_eq_some_iff.mp h
    refine isFlagged_of_rowElements (fun row found => ?_) h he
    obtain ⟨_, _, same⟩ := Option.map_eq_some_iff.mp found
    cases same
  | map key value =>
    cases data <;> try contradiction
    obtain ⟨keys, _, h⟩ := Option.bind_eq_some_iff.mp h
    obtain ⟨values, _, h⟩ := Option.bind_eq_some_iff.mp h
    refine isFlagged_of_rowElements (fun row found => ?_) h he
    obtain ⟨_, _, found⟩ := Option.bind_eq_some_iff.mp found
    obtain ⟨_, _, found⟩ := Option.bind_eq_some_iff.mp found
    cases found
  | struct fields =>
    cases data <;> try contradiction
    obtain ⟨columns, _, h⟩ := Option.bind_eq_some_iff.mp h
    refine isFlagged_of_rowElements (fun row found => ?_) h he
    obtain ⟨_, _, same⟩ := Option.map_eq_some_iff.mp found
    cases same
  | union dense branches codes =>
    cases data <;> try contradiction
    obtain ⟨columns, _, h⟩ := Option.bind_eq_some_iff.mp h
    obtain ⟨code, place, _, _, value, hcode, _, _, _, _, same⟩ := branchElement?_of_mapM h he
    subst same
    exact .inr ⟨nofun,
      by rw [presence, List.getElem?_map, hcode]; rfl⟩
  | foreign name => contradiction
  | _ =>
    cases data <;> try contradiction
    cases h
    refine isFlagged_of_ofCell (fun stored same => ?_) he
    cases same

end Missing

namespace ColumnVector

variable {vector vector' : ColumnVector} {row row' : Nat} {element : Element}

/-- A row is null exactly if its element is missing. -/
theorem Shows.nullAt {type : ColumnType} (h : vector.Shows type row element) :
    element = .missing ∧ vector.flags.nullAt row = .ok true ∨
      element ≠ .missing ∧ vector.flags.nullAt row = .ok false := by
  obtain ⟨data, all, laid, hall, he⟩ := h
  rw [flags_ofColumn laid]
  rcases ColumnData.isFlagged_of_elements? hall he with ⟨same, hrow⟩ | ⟨differ, hrow⟩
  · exact .inl ⟨same, RowFlags.nullAt_ofPresent hrow⟩
  · exact .inr ⟨differ, RowFlags.nullAt_ofPresent hrow⟩

/-- Every member of the elements of a column is shown in its row. -/
theorem shows_of_getElem? {type : ColumnType} {data : ColumnData} {all : List Element}
    (laid : ofColumn type data = .ok vector) (hall : data.elements? type = some all)
    (he : all[row]? = some element) : vector.Shows type row element :=
  ⟨data, all, laid, hall, he⟩

/-- A row that is there of a list column designates the slice of the members of its element. -/
theorem Shows.exists_list {type : ColumnType} (h : vector.Shows (.list type) row element)
    (there : element ≠ .missing) :
    ∃ flags offsets lengths child first members, vector = list flags offsets lengths (some child) ∧
      element = .list members ∧
      slice flags offsets lengths row = .ok (((first : Nat) : Int), (members.length : Int)) ∧
      (∃ data, ofColumn type data = .ok child) ∧
      ∀ (place : Nat) (member : Element), members[place]? = some member →
        child.Shows type (first + place) member := by
  obtain ⟨data, all, laid, hall, he⟩ := h
  cases data <;> try contradiction
  obtain ⟨child, hchild, laid⟩ := bind_eq_ok laid
  cases laid
  obtain ⟨inner, hinner, hall⟩ := Option.bind_eq_some_iff.mp hall
  rcases (ColumnData.rowElements_eq_some hall).2 row element he with ⟨_, same⟩ | ⟨_, found⟩
  · exact absurd same there
  · obtain ⟨members, hslice, rfl⟩ := Option.map_eq_some_iff.mp found
    obtain ⟨first, bounded, hmembers⟩ := ColumnData.slice?_eq_some hslice
    refine ⟨_, _, _, child, first, members, rfl, rfl, slice_ofPresent bounded, ⟨_, hchild⟩, ?_⟩
    intro place member hp
    have inside : place < members.length := (List.getElem?_eq_some_iff.mp hp).1
    exact shows_of_getElem? hchild hinner ((hmembers place inside).trans hp)

/-- A row that is there of a map column designates the slice of the keys and of the values of its
element. -/
theorem Shows.exists_map {key value : ColumnType} (h : vector.Shows (.map key value) row element)
    (there : element ≠ .missing) :
    ∃ flags offsets lengths keyChild valueChild first keys values,
      vector = map flags offsets lengths (some keyChild) (some valueChild) ∧
      element = .map keys values ∧ values.length = keys.length ∧
      slice flags offsets lengths row = .ok (((first : Nat) : Int), (keys.length : Int)) ∧
      (∃ data, ofColumn key data = .ok keyChild) ∧ (∃ data, ofColumn value data = .ok valueChild) ∧
      (∀ (place : Nat) (member : Element), keys[place]? = some member →
        keyChild.Shows key (first + place) member) ∧
      ∀ (place : Nat) (member : Element), values[place]? = some member →
        valueChild.Shows value (first + place) member := by
  obtain ⟨data, all, laid, hall, he⟩ := h
  cases data <;> try contradiction
  obtain ⟨keyChild, hkey, laid⟩ := bind_eq_ok laid
  obtain ⟨valueChild, hvalue, laid⟩ := bind_eq_ok laid
  cases laid
  obtain ⟨innerKeys, hik, hall⟩ := Option.bind_eq_some_iff.mp hall
  obtain ⟨innerValues, hiv, hall⟩ := Option.bind_eq_some_iff.mp hall
  rcases (ColumnData.rowElements_eq_some hall).2 row element he with ⟨_, same⟩ | ⟨_, found⟩
  · exact absurd same there
  · obtain ⟨keys, hks, found⟩ := Option.bind_eq_some_iff.mp found
    obtain ⟨values, hvs, found⟩ := Option.bind_eq_some_iff.mp found
    cases found
    obtain ⟨first, bounded, hkeys⟩ := ColumnData.slice?_eq_some hks
    obtain ⟨first', bounded', hvalues⟩ := ColumnData.slice?_eq_some hvs
    -- keys and values lie between the same bounds
    have hfirst : (first : Int) = first' := Option.some_inj.mp (bounded.1.symm.trans bounded'.1)
    have hlast := Option.some_inj.mp (bounded.2.symm.trans bounded'.2)
    have hplace : first = first' := by omega
    subst hplace
    refine ⟨_, _, _, keyChild, valueChild, first, keys, values, rfl, rfl, by omega,
      slice_ofPresent bounded, ⟨_, hkey⟩, ⟨_, hvalue⟩, fun place member hp => ?_,
      fun place member hp => ?_⟩
    · have inside : place < keys.length := (List.getElem?_eq_some_iff.mp hp).1
      exact shows_of_getElem? hkey hik ((hkeys place inside).trans hp)
    · have inside : place < values.length := (List.getElem?_eq_some_iff.mp hp).1
      exact shows_of_getElem? hvalue hiv ((hvalues place inside).trans hp)

/-- The vectors of columns show the elements at one row. -/
theorem allShow_of_fieldElements? {fields : List (String × ColumnType)}
    {columns : List ColumnData} {vectors : List ColumnVector} {inner : List (List Element)}
    {elements : List Element} (laid : ofColumns fields columns = .ok vectors)
    (hinner : ColumnData.fieldElements? fields columns = some inner)
    (he : inner.mapM (·[row]?) = some elements) : AllShow row vectors fields elements := by
  induction fields generalizing columns vectors inner elements with
  | nil =>
    cases columns <;> try contradiction
    cases laid
    cases hinner
    cases he
    exact .nil
  | cons field fields ih =>
    cases columns <;> try contradiction
    obtain ⟨vector, hv, laid⟩ := bind_eq_ok laid
    obtain ⟨others, ho, laid⟩ := bind_eq_ok laid
    cases laid
    obtain ⟨all, hall, hinner⟩ := Option.bind_eq_some_iff.mp hinner
    obtain ⟨rest, hrest, hinner⟩ := Option.bind_eq_some_iff.mp hinner
    cases hinner
    rw [List.mapM_cons] at he
    obtain ⟨first, hf, he⟩ := Option.bind_eq_some_iff.mp he
    obtain ⟨tail, ht, he⟩ := Option.bind_eq_some_iff.mp he
    cases he
    exact .cons (shows_of_getElem? hv hall hf) (ih ho hrest ht)

/-- A row that is there of a struct column shows the fields of its element. -/
theorem Shows.exists_struct {fields : List (String × ColumnType)}
    (h : vector.Shows (.struct fields) row element) (there : element ≠ .missing) :
    ∃ flags vectors members, vector = struct flags vectors ∧ element = .struct members ∧
      AllShow row vectors fields members := by
  obtain ⟨data, all, laid, hall, he⟩ := h
  cases data <;> try contradiction
  obtain ⟨vectors, hv, laid⟩ := bind_eq_ok laid
  cases laid
  obtain ⟨inner, hinner, hall⟩ := Option.bind_eq_some_iff.mp hall
  rcases (ColumnData.rowElements_eq_some hall).2 row element he with ⟨_, same⟩ | ⟨_, found⟩
  · exact absurd same there
  · obtain ⟨members, hm, rfl⟩ := Option.map_eq_some_iff.mp found
    exact ⟨_, vectors, members, rfl, rfl, allShow_of_fieldElements? hv hinner hm⟩

/-- The elements of columns stand at the places of those. -/
theorem shows_of_fieldElements? {fields : List (String × ColumnType)}
    {columns : List ColumnData} {vectors : List ColumnVector} {inner : List (List Element)}
    (laid : ofColumns fields columns = .ok vectors)
    (hinner : ColumnData.fieldElements? fields columns = some inner) {place : Nat}
    {all : List Element} (hall : inner[place]? = some all) (he : all[row]? = some element) :
    ∃ field vector, fields[place]? = some field ∧ vectors[place]? = some vector ∧
      vector.Shows field.2 row element := by
  induction fields generalizing columns vectors inner place with
  | nil =>
    cases columns <;> try contradiction
    cases hinner
    cases hall
  | cons field fields ih =>
    cases columns <;> try contradiction
    obtain ⟨vector, hv, laid⟩ := bind_eq_ok laid
    obtain ⟨others, ho, laid⟩ := bind_eq_ok laid
    cases laid
    obtain ⟨first, hf, hinner⟩ := Option.bind_eq_some_iff.mp hinner
    obtain ⟨rest, hrest, hinner⟩ := Option.bind_eq_some_iff.mp hinner
    cases hinner
    cases place with
    | zero =>
      cases hall
      exact ⟨field, vector, rfl, rfl, shows_of_getElem? hv hf he⟩
    | succ place => exact ih ho hrest hall

/-- A row of a union column shows the element of the branch that its tag designates. -/
theorem Shows.exists_union {dense : Bool} {branches : List (String × ColumnType)}
    {codes : List Int} (h : vector.Shows (.union dense branches codes) row element) :
    ∃ flags tags vectors offsets place target value branch inner,
      vector = union flags tags vectors offsets ∧ element = .union place value ∧
      Position.get? tags (flags.index row) = some ((place : Nat) : Int) ∧
      branchRow flags offsets row = .ok ((target : Nat) : Int) ∧
      vectors.length = branches.length ∧ branches[place]? = some branch ∧
      vectors[place]? = some inner ∧ inner.Shows branch.2 target value := by
  obtain ⟨data, all, laid, hall, he⟩ := h
  cases data with
  | union rowCodes columns offsets =>
    obtain ⟨tags, ht, laid⟩ := bind_eq_ok laid
    obtain ⟨vectors, hv, laid⟩ := bind_eq_ok laid
    cases laid
    obtain ⟨inner, hinner, hall⟩ := Option.bind_eq_some_iff.mp hall
    obtain ⟨code, place, column, target, value, hcode, hplace, hcolumn, htarget, hvalue, rfl⟩ :=
      ColumnData.branchElement?_of_mapM hall he
    obtain ⟨tag, htag, hnamed⟩ := getElem?_of_mapM_eq_ok ht hcode
    rw [hplace] at hnamed
    cases hnamed
    obtain ⟨branch, vector, hb, hfound, shown⟩ :=
      shows_of_fieldElements? hv hinner hcolumn hvalue
    have hindex : (RowFlags.allPresent rowCodes.length).index row = row := rfl
    refine ⟨_, tags, vectors, _, place, target, value, branch, vector, rfl, rfl, ?_, ?_,
      (ofColumns_eq_ok hv).1, hb, hfound, shown⟩
    · rw [hindex, Position.get?_ofNat, htag]
    · cases dense with
      | false =>
        cases htarget
        rfl
      | true =>
        obtain ⟨rows, rfl, htarget⟩ := Option.bind_eq_some_iff.mp htarget
        obtain ⟨offset, hoffset, htarget⟩ := Option.bind_eq_some_iff.mp htarget
        split at htarget
        case isTrue natural =>
          cases htarget
          rw [if_pos rfl, branchRow, hindex, Position.get?_ofNat, hoffset,
            Int.toNat_of_nonneg natural]
          rfl
        case isFalse => cases htarget
  | _ => contradiction

end ColumnVector

end OrcRows
