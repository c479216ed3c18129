import OrcRows.Proofs.Cell.InnerCells

/-!
# Widths of rows

A row is read field by field, so it has a value for each field of its vector. A vector with more
fields than its type declares is refused, wherever reading comes to it; one with fewer fields is
read, and its row is too narrow. The rows of a cell all have the width of their types exactly if no
vector that reading comes to lacks a field.
-/

namespace OrcRows

open Outcome ColumnVector Relation

/-- A declared value is a row with these fields, or has it inside at some depth. -/
def Value.HasRow (whole : Value × NativeType) (fields : List Value) (type : NativeType) : Prop :=
  ∃ tableId, ReflTransGen HasPart whole (.row fields tableId, type)

namespace CellSpot

/-- Reading a cell comes, at some depth, to a struct vector with these fields at a row that is not
missing. -/
def Meets (policy : TextPolicy) (spot : CellSpot) (fields : List ColumnVector)
    (type : NativeType) : Prop :=
  ∃ flags unified row, flags.nullAt row = .ok false ∧
    ReflTransGen (Reads policy) spot ⟨struct flags fields, type, unified, row⟩

variable {policy : TextPolicy} {spot : CellSpot} {value : Value}

/-- A cell that is a row is read from a struct vector with as many fields. -/
theorem exists_struct_of_row {fields : List Value} {tableId : Option String}
    (read : spot.cell policy = .ok (.row fields tableId)) :
    ∃ flags vectors, spot.vector = struct flags vectors ∧ flags.nullAt spot.row = .ok false ∧
      fields.length = vectors.length ∧ vectors.length ≤ spot.declared.children.length := by
  obtain ⟨vector, declared, unified, row⟩ := spot
  cases vector with
  | leaf flags cells =>
    obtain ⟨_, missing⟩ | ⟨there, _⟩ := cell_eq_ok read
    · cases missing
    · rw [CellSpot.cell, cell_leaf there] at read
      exact (isFlat_of_leafCell read).elim
  | struct flags vectors =>
    obtain ⟨_, missing⟩ | ⟨there, _, fits, values, same, hvalues⟩ := cell_struct_eq_ok read
    · cases missing
    · cases same
      exact ⟨flags, vectors, rfl, there, (fieldCells_ok hvalues).1, fits⟩
  | list =>
    obtain ⟨_, missing⟩ | ⟨_, _, _, _, _, _, _, _, _, made⟩ := cell_eq_ok read
    · cases missing
    · cases made
  | map =>
    obtain ⟨_, missing⟩ | ⟨_, _, _, _, _, _, _, _, _, _, _, _, _, _, _, made⟩ := cell_eq_ok read
    · cases missing
    · cases made
  | union =>
    obtain ⟨_, missing⟩ | ⟨_, _, _, _, _, _, _, _, _, _, _, _, made⟩ := cell_union_eq_ok read
    · cases missing
    · cases made
  | untyped =>
    obtain ⟨_, missing⟩ | ⟨_, made⟩ := cell_eq_ok read
    · cases missing
    · exact made.elim

/-- A row inside a cell comes from a struct vector that reading comes to. -/
theorem meets_of_hasRow {fields : List Value} {type : NativeType}
    (read : spot.cell policy = .ok value)
    (inside : Value.HasRow (value, spot.declared) fields type) :
    ∃ vectors, spot.Meets policy vectors type ∧ fields.length = vectors.length ∧
      vectors.length ≤ type.children.length := by
  obtain ⟨tableId, path⟩ := inside
  generalize hwhole : (value, spot.declared) = whole at path
  -- The walk into the value is followed by a walk of readings, spot by spot.
  induction path using ReflTransGen.head_induction_on generalizing spot value with
  | refl =>
    cases hwhole
    obtain ⟨flags, vectors, hvector, there, count, fits⟩ := exists_struct_of_row read
    refine ⟨vectors, ⟨flags, spot.unified, spot.row, there, ?_⟩, count, fits⟩
    rw [← hvector]
  | @head first next step rest ih =>
    obtain ⟨part, partType⟩ := next
    rw [← hwhole] at step
    obtain flat | ⟨inner, reads, rfl, there⟩ := isFlat_or_reads read step
    · obtain same | ⟨_, further, _⟩ := rest.cases_head
      · cases same
        exact flat.elim
      · exact (flat.not_hasPart further).elim
    · obtain ⟨vectors, ⟨flags, unified, row, present, path⟩, count, fits⟩ := ih there rfl
      exact ⟨vectors, ⟨flags, unified, row, present, path.head reads⟩, count, fits⟩

/-- If a cell is read, a struct vector that reading comes to gives a row inside it. -/
theorem hasRow_of_meets {vectors : List ColumnVector} {type : NativeType}
    (read : spot.cell policy = .ok value) (meets : spot.Meets policy vectors type) :
    ∃ fields, Value.HasRow (value, spot.declared) fields type ∧
      fields.length = vectors.length := by
  obtain ⟨flags, unified, row, there, path⟩ := meets
  induction path using ReflTransGen.head_induction_on generalizing value with
  | refl =>
    obtain ⟨null, _⟩ | ⟨_, _, _, fields, rfl, hfields⟩ := cell_struct_eq_ok read
    · cases there.symm.trans null
    · exact ⟨fields, ⟨none, .refl⟩, (fieldCells_ok hfields).1⟩
  | head reads _ ih =>
    obtain ⟨part, hpart, step⟩ := reads.exists_part read
    obtain ⟨fields, ⟨tableId, inside⟩, count⟩ := ih hpart
    exact ⟨fields, ⟨tableId, inside.head step⟩, count⟩

/-- A struct vector with too many fields makes every cell fail that comes to it. -/
theorem cell_error_of_meets {vectors : List ColumnVector} {type : NativeType}
    (meets : spot.Meets policy vectors type) (wide : type.children.length < vectors.length) :
    ∃ message facts, spot.cell policy = .error (.report .illegalArgument message facts) := by
  obtain ⟨flags, unified, row, there, path⟩ := meets
  induction path using ReflTransGen.head_induction_on with
  | refl =>
    have present : (struct flags vectors).flags.nullAt row = .ok false := there
    rw [CellSpot.cell, ColumnVector.cell.eq_def, present, ok_bind, if_neg (by simp), checkShape]
    by_cases shape : type.category = .struct
    · simp only [category?, if_pos shape, if_pos wide]
      exact ⟨_, _, rfl⟩
    · simp only [category?, if_neg shape]
      exact ⟨_, _, rfl⟩
  | head reads _ ih =>
    obtain ⟨message, facts, fails⟩ := ih
    exact ⟨message, facts, reads.cell_error fails⟩

/-- No row inside a cell is wider than its type. The rows all have the width of their types exactly
if no struct vector that reading comes to lacks a field; one with too many makes the cell fail. -/
theorem row_widths (policy : TextPolicy) (spot : CellSpot) :
    (∀ value, spot.cell policy = .ok value →
      (∀ fields type, Value.HasRow (value, spot.declared) fields type →
        fields.length ≤ type.children.length) ∧
      ((∀ fields type, Value.HasRow (value, spot.declared) fields type →
          fields.length = type.children.length) ↔
        ∀ vectors type, spot.Meets policy vectors type →
          type.children.length ≤ vectors.length)) ∧
      ∀ vectors type, spot.Meets policy vectors type → type.children.length < vectors.length →
        ∃ message facts, spot.cell policy = .error (.report .illegalArgument message facts) := by
  refine ⟨fun value read => ⟨?_, ?_, ?_⟩, fun vectors type => cell_error_of_meets⟩
  · intro fields type inside
    obtain ⟨vectors, _, count, fits⟩ := meets_of_hasRow read inside
    omega
  · intro wide vectors type meets
    obtain ⟨fields, inside, count⟩ := hasRow_of_meets read meets
    rw [← count, wide fields type inside]
  · intro complete fields type inside
    obtain ⟨vectors, meets, count, fits⟩ := meets_of_hasRow read inside
    have := complete vectors type meets
    omega

/-- A union whose only branch is a struct; the struct vector has a field more than its type. -/
def crowdedSpot : CellSpot where
  vector := .union ⟨[], true, false⟩ [0]
    [.struct ⟨[], true, false⟩
      [.leaf ⟨[], true, false⟩ (.long [1]), .leaf ⟨[], true, false⟩ (.long [2])]] none
  declared := .union [.struct [("a", .primitive .int)]]
  unified := none
  row := 0

/-- The field too many is noticed in the branch. -/
theorem row_widths_crowded :
    ∃ message facts, crowdedSpot.cell .standard =
      .error (.report .illegalArgument message facts) := by
  have meets : crowdedSpot.Meets .standard
      [.leaf ⟨[], true, false⟩ (.long [1]), .leaf ⟨[], true, false⟩ (.long [2])]
      (.struct [("a", .primitive .int)]) :=
    ⟨_, _, _, rfl, .single (.branch rfl rfl rfl rfl rfl rfl)⟩
  exact (row_widths .standard crowdedSpot).2 _ _ meets (by decide)

/-- A struct vector that lacks the second of two fields. -/
def sparseSpot : CellSpot where
  vector := .struct ⟨[], true, false⟩ [.leaf ⟨[], true, false⟩ (.long [1])]
  declared := .struct [("a", .primitive .int), ("b", .primitive .int)]
  unified := none
  row := 0

/-- A row with one value is read where two are declared. -/
theorem narrow_row_read :
    sparseSpot.cell .standard = .ok (.row [.int 1] none) ∧
      Value.HasRow (.row [.int 1] none, sparseSpot.declared) [.int 1] sparseSpot.declared ∧
      [Value.int 1].length < sparseSpot.declared.children.length :=
  ⟨rfl, ⟨none, .refl⟩, by decide⟩

end CellSpot

end OrcRows
