import OrcRows.Proofs.Table.Element

/-!
# Columns whose arrays go together

A column is laid out for its type if its arrays go together at every depth: cells lie in the array
of their kind, rows of lists and maps delimit consecutive members, fields have the rows of their
struct, and every row of a union has a known code and a row of its branch. Nothing is asked of the
cells themselves. Cells that are laid out in the natural way are.
-/

namespace OrcRows

namespace ColumnType

mutual

/-- Cells are enough to lay a column of a type out: it has no unions and nothing that cannot be
read. -/
def IsOfCells : ColumnType → Prop
  | list element => element.IsOfCells
  | map key value => key.IsOfCells ∧ value.IsOfCells
  | struct fields => AllOfCells fields
  | union .. | foreign _ => False
  | _ => True

/-- Cells are enough for each of some named types. -/
def AllOfCells : List (String × ColumnType) → Prop
  | [] => True
  | (_, type) :: rest => type.IsOfCells ∧ AllOfCells rest

end

end ColumnType

namespace ColumnData

/-- The array is of the kind in which the cells of a type without parts lie. -/
def Stores : ColumnData → ColumnType → Prop
  | integers _, .boolean | integers _, .integer .. | integers _, .date
  | integers _, .timestamp _ => True
  | floats _, .floating _ => True
  | bytes _, .text _ | bytes _, .binary _ => True
  | decimals _, .decimal .. => True
  | _, _ => False

/-- The arrays of a column go together at every depth. In a sparse union every branch has the rows
of the union, in a dense one every row addresses a row of its branch. -/
inductive IsLaidOut : ColumnType → ColumnData → Prop
  | leaf {type : ColumnType} {data : ColumnData} (stored : data.Stores type) : IsLaidOut type data
  | list {element : ColumnType} {present : List Bool} {bounds : List Int} {child : ColumnData}
      (slices : AreBounds bounds present.length child.length) (inner : IsLaidOut element child) :
      IsLaidOut (.list element) (.list present bounds child)
  | map {key value : ColumnType} {present : List Bool} {bounds : List Int}
      {keys values : ColumnData} (slices : AreBounds bounds present.length keys.length)
      (paired : values.length = keys.length) (innerKey : IsLaidOut key keys)
      (innerValue : IsLaidOut value values) :
      IsLaidOut (.map key value) (.map present bounds keys values)
  | struct {fields : List (String × ColumnType)} {present : List Bool} {columns : List ColumnData}
      (width : columns.length = fields.length)
      (rows : ∀ column ∈ columns, column.length = present.length)
      (inner : ∀ (place : Nat) (field : String × ColumnType) (column : ColumnData),
        fields[place]? = some field → columns[place]? = some column → IsLaidOut field.2 column) :
      IsLaidOut (.struct fields) (.struct present columns)
  | union {dense : Bool} {branches : List (String × ColumnType)} {codes rowCodes : List Int}
      {columns : List ColumnData} {offsets : Option (List Int)}
      (width : columns.length = branches.length) (coded : codes.length = branches.length)
      (known : ∀ code ∈ rowCodes, code ∈ codes)
      (sparse : dense = false → ∀ column ∈ columns, column.length = rowCodes.length)
      (addressed : dense = true → ∃ targets, offsets = some targets ∧
        targets.length = rowCodes.length ∧
        ∀ (row place : Nat) (code : Int) (column : ColumnData), rowCodes[row]? = some code →
          codes.idxOf? code = some place → columns[place]? = some column →
          ∃ target : Nat, targets[row]? = some (target : Int) ∧ target < column.length)
      (inner : ∀ (place : Nat) (branch : String × ColumnType) (column : ColumnData),
        branches[place]? = some branch → columns[place]? = some column →
        IsLaidOut branch.2 column) :
      IsLaidOut (.union dense branches codes) (.union rowCodes columns offsets)

/-- A type whose cells lie in one array has no parts. -/
theorem Stores.isLeaf {type : ColumnType} {data : ColumnData} (stored : data.Stores type) :
    type.IsLeaf := by
  cases data <;> cases type <;> first | contradiction | exact trivial

/-- Cells laid out have a row for each of them. -/
theorem length_ofCells (type : ColumnType) (cells : List Value) :
    (ofCells type cells).length = cells.length := by
  rw [ofCells.eq_def]
  cases type <;> simp [length]

/-- Bounds begin with the first one. -/
theorem runningBounds_zero (first : Int) (lengths : List Nat) :
    (runningBounds first lengths)[0]? = some first := by
  cases lengths <;> rfl

/-- Running sums bound slices of what there is of all lengths. -/
theorem areBounds_runningBounds (first : Nat) {lengths : List Nat} {room : Nat}
    (h : first + lengths.sum ≤ room) :
    AreBounds (runningBounds first lengths) lengths.length room := by
  induction lengths generalizing first with
  | nil => exact ⟨rfl, fun row inside => absurd inside (Nat.not_lt_zero row)⟩
  | cons length rest ih =>
    rw [List.sum_cons] at h
    obtain ⟨hlength, hrest⟩ := ih (first + length) (by omega)
    rw [runningBounds, ← Nat.cast_add]
    refine ⟨by rw [List.length_cons, hlength, List.length_cons], fun row inside => ?_⟩
    cases row with
    | zero => exact ⟨first, length, ⟨rfl, runningBounds_zero _ rest⟩, by omega⟩
    | succ row => exact hrest row (by simpa using inside)

/-- The members of cells are bounded by the sums of their numbers. -/
theorem areBounds_members (cells : List Value) {room : Nat}
    (all : room = (cells.flatMap membersOf).length) :
    AreBounds (runningBounds 0 (cells.map fun cell => (membersOf cell).length))
      (cells.map isPresent).length room := by
  have total : 0 + (cells.map fun cell => (membersOf cell).length).sum ≤ room := by
    rw [all, List.length_flatMap, Nat.zero_add]
  have slices := areBounds_runningBounds 0 total
  rwa [List.length_map, ← List.length_map (f := isPresent)] at slices

mutual

/-- Cells laid out in the natural way are laid out. -/
theorem isLaidOut_ofCells (type : ColumnType) (h : type.IsOfCells) (cells : List Value) :
    (ofCells type cells).IsLaidOut type := by
  rw [ofCells.eq_def]
  match type with
  | .list element =>
    exact .list (areBounds_members cells (length_ofCells element _))
      (isLaidOut_ofCells element h _)
  | .map key value =>
    refine .map (areBounds_members cells ?_) ?_ (isLaidOut_ofCells key h.1 _)
      (isLaidOut_ofCells value h.2 _)
    · rw [length_ofCells, List.length_map]
    · rw [length_ofCells, length_ofCells, List.length_map, List.length_map]
  | .struct fields =>
    obtain ⟨width, rows, inner⟩ := isLaidOut_ofFieldCells fields h 0 (cells.map fun cell =>
      if isPresent cell then cell else emptyCell (.struct fields))
    refine .struct width (fun column member => ?_) inner
    rw [rows column member, List.length_map, List.length_map]
  | .boolean | .integer .. | .date | .timestamp _ | .floating _ | .text _ | .binary _
  | .decimal .. => exact .leaf trivial

/-- The columns of fields have the rows of the cells and are laid out. -/
theorem isLaidOut_ofFieldCells (fields : List (String × ColumnType))
    (h : ColumnType.AllOfCells fields) (first : Nat) (cells : List Value) :
    (ofFieldCells fields first cells).length = fields.length ∧
      (∀ column ∈ ofFieldCells fields first cells, column.length = cells.length) ∧
      ∀ (place : Nat) (field : String × ColumnType) (column : ColumnData),
        fields[place]? = some field → (ofFieldCells fields first cells)[place]? = some column →
        column.IsLaidOut field.2 := by
  rw [ofFieldCells.eq_def]
  match fields with
  | [] => exact ⟨rfl, by simp, by simp⟩
  | (name, type) :: rest =>
    obtain ⟨width, rows, inner⟩ := isLaidOut_ofFieldCells rest h.2 (first + 1) cells
    have head := isLaidOut_ofCells type h.1 (cells.map (memberOf first))
    refine ⟨by simp [width], ?_, fun place field column hf hc => ?_⟩
    · intro column member
      rcases List.mem_cons.mp member with rfl | member
      · rw [length_ofCells, List.length_map]
      · exact rows column member
    · cases place with
      | zero =>
        rw [List.getElem?_cons_zero, Option.some_inj] at hf hc
        rw [← hf, ← hc]
        exact head
      | succ place => exact inner place field column hf hc

end

end ColumnData

end OrcRows
