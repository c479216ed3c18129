import OrcRows.Proofs.Table.Elements
import OrcRows.Proofs.Table.Places

/-!
# Tables cut into stripes

The elements of a column of a table are those of its arrays in all stripes, laid end to end. Two
tables hold the same if they have the same columns with the same elements, however either is cut
into stripes.
-/

namespace OrcRows

/-- What is found in a list of pieces laid end to end is found in one piece; lists of pieces of the
same lengths have at this place what the same piece has. -/
theorem exists_of_getElem?_flatMap {α β : Type} {f : α → List β} {pieces : List α} {place : Nat}
    {b : β} (h : (pieces.flatMap f)[place]? = some b) :
    ∃ piece ∈ pieces, ∃ inner : Nat, (f piece)[inner]? = some b ∧
      ∀ {γ : Type} (g : α → List γ), (∀ piece ∈ pieces, (g piece).length = (f piece).length) →
        (pieces.flatMap g)[place]? = (g piece)[inner]? := by
  induction pieces generalizing place with
  | nil => cases h
  | cons first rest ih =>
    rw [List.flatMap_cons] at h
    by_cases inside : place < (f first).length
    · rw [List.getElem?_append_left inside] at h
      refine ⟨first, List.mem_cons_self, place, h, fun g same => ?_⟩
      rw [List.flatMap_cons, List.getElem?_append_left (same first List.mem_cons_self ▸ inside)]
    · rw [List.getElem?_append_right (Nat.le_of_not_lt inside)] at h
      obtain ⟨piece, member, inner, found, others⟩ := ih h
      refine ⟨piece, List.mem_cons_of_mem first member, inner, found, fun g same => ?_⟩
      have hfirst := same first List.mem_cons_self
      rw [List.flatMap_cons, List.getElem?_append_right (hfirst ▸ Nat.le_of_not_lt inside), hfirst]
      exact others g fun piece member => same piece (List.mem_cons_of_mem first member)

/-- Pieces of the same lengths laid end to end are lists of the same length. -/
theorem length_flatMap_congr {α β γ : Type} {f : α → List β} {g : α → List γ} {pieces : List α}
    (h : ∀ piece ∈ pieces, (g piece).length = (f piece).length) :
    (pieces.flatMap g).length = (pieces.flatMap f).length := by
  rw [List.length_flatMap, List.length_flatMap]
  exact congrArg List.sum (List.map_congr_left h)

namespace Table

variable {table table' : Table}

/-- The elements of a column in a stripe. -/
def stripeElements? (type : ColumnType) (place : Nat) :
    Except Breakdown (List ColumnData) → Option (List Element)
  | .error _ => none
  | .ok arrays => do (← arrays[place]?).elements? type

/-- The elements of the column at a place: those of its arrays in all stripes, in order. -/
def elements? (table : Table) (place : Nat) : Option (List Element) := do
  let (_, type) ← table.fields[place]?
  return (← table.stripes.mapM (stripeElements? type place)).flatten

/-- Two tables hold the same: they are refused for the same reason, if at all, all their stripes can
be read, and the columns that have a declared type have the same elements. -/
structure HoldsSame (table table' : Table) : Prop where
  /-- The columns have the same names and types. -/
  fields_eq : table'.fields = table.fields
  /-- Both tables can be opened, or neither. -/
  refusal_eq : table'.refusal = table.refusal
  /-- All stripes of one table can be read. -/
  readable : ∀ stripe ∈ table.stripes, ∃ arrays, stripe = .ok arrays
  /-- All stripes of the other table can be read. -/
  readable' : ∀ stripe ∈ table'.stripes, ∃ arrays, stripe = .ok arrays
  /-- The stripes of one table have an array for every column, all of one length. -/
  rectangular : table.IsRectangular
  /-- The stripes of the other table have an array for every column, all of one length. -/
  rectangular' : table'.IsRectangular
  /-- The columns have elements, the same in both tables. -/
  elements_eq : ∀ (place : Nat) (field : String × ColumnType) (native : NativeType),
    table.fields[place]? = some field → NativeType.ofColumn field.2 = .ok native →
    ∃ elements, table.elements? place = some elements ∧ table'.elements? place = some elements

/-- The elements of a column are laid end to end from those of the stripes. -/
theorem elements?_eq_some {place : Nat} {elements : List Element}
    (h : table.elements? place = some elements) :
    ∃ field, table.fields[place]? = some field ∧
      (∀ stripe ∈ table.stripes, ∃ part, stripeElements? field.2 place stripe = some part) ∧
      elements = table.stripes.flatMap fun stripe =>
        (stripeElements? field.2 place stripe).getD [] := by
  obtain ⟨field, hfield, h⟩ := Option.bind_eq_some_iff.mp h
  obtain ⟨parts, hparts, h⟩ := Option.bind_eq_some_iff.mp h
  cases h
  refine ⟨field, hfield, fun stripe member => exists_of_mapM_eq_some hparts member, ?_⟩
  rw [List.flatMap_def, map_getD_of_mapM_eq_some hparts]

/-- The arrays of a stripe have the elements of their columns, as many as the stripe has rows. -/
theorem exists_array_of_stripeElements? {type : ColumnType} {place : Nat}
    {arrays : List ColumnData} {part : List Element}
    (h : stripeElements? type place (.ok arrays) = some part) :
    ∃ array, arrays[place]? = some array ∧ array.elements? type = some part := by
  obtain ⟨array, harray, hpart⟩ := Option.bind_eq_some_iff.mp h
  exact ⟨array, harray, hpart⟩

end Table

end OrcRows
