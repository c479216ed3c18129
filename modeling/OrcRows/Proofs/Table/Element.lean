import OrcRows.Table.Batch
import OrcRows.Proofs.Cell.Inhabits
import OrcRows.Proofs.Dictionary

/-!
# The elements of a table column

What a column stands for is said row by row, without any vector: `ColumnData.Denotes` relates a row
of a column to its value. `ColumnData.Valid` says which data a column of a type may have, and
`ColumnData.InCalendar` that the dates and timestamps that belong to a row lie in the years 1 to
9999.
-/

namespace OrcRows

namespace ColumnType

/-- Whether a type has no parts. -/
def IsLeaf : ColumnType → Prop
  | boolean | integer .. | floating _ | text _ | binary _ | date | timestamp _ | decimal .. => True
  | list _ | map .. | struct _ | union .. | foreign _ => False

mutual

/-- The elements of lists, and the keys and values of maps, have no parts. -/
def IsFlat : ColumnType → Prop
  | list element => element.IsLeaf
  | map key value => key.IsLeaf ∧ value.IsLeaf
  | struct fields => AllFlat fields
  | union _ branches _ => AllFlat branches
  | _ => True

/-- All of some named types are flat. -/
def AllFlat : List (String × ColumnType) → Prop
  | [] => True
  | (_, type) :: rest => type.IsFlat ∧ AllFlat rest

end

/-- Each of some flat types is flat. -/
theorem AllFlat.getElem? {fields : List (String × ColumnType)} (h : AllFlat fields) {place : Nat}
    {field : String × ColumnType} (hf : fields[place]? = some field) : field.2.IsFlat := by
  induction fields generalizing place with
  | nil => simp at hf
  | cons head rest ih =>
    cases place with
    | zero =>
      rw [List.getElem?_cons_zero, Option.some_inj] at hf
      exact hf ▸ h.1
    | succ place => exact ih h.2 hf

end ColumnType

/-- A timestamp is a number of nanoseconds, rounded down to the microsecond. -/
def Timestamp.IsFloorOf (timestamp : Timestamp) (nanos : Int) : Prop :=
  timestamp.micros * 1000 ≤ nanos ∧ nanos < (timestamp.micros + 1) * 1000

/-- A number of nanoseconds lies in the years 1 to 9999. -/
def InYears (nanos : Int) : Prop :=
  -62135596800000000000 ≤ nanos ∧ nanos < 253402300800000000000

/-- A moment in the years 1 to 9999 has a timestamp. -/
theorem InYears.exists_isFloorOf {nanos : Int} (h : InYears nanos) :
    ∃ timestamp : Timestamp, timestamp.IsFloorOf nanos := by
  obtain ⟨hl, hu⟩ := h
  have hfloor : nanos / 1000 * 1000 ≤ nanos ∧ nanos < (nanos / 1000 + 1) * 1000 := by omega
  exact ⟨⟨nanos / 1000, by omega⟩, hfloor⟩

namespace ColumnData

/-- A row of bounds delimits a number of consecutive children from a first one on. -/
def IsSlice (bounds : List Int) (row first count : Nat) : Prop :=
  bounds[row]? = some (first : Int) ∧ bounds[row + 1]? = some ((first + count : Nat) : Int)

/-- Which rows have an element that is there; unions have no nulls of their own. -/
def presence : ColumnData → List Bool
  | integers cells => cells.map (·.isSome)
  | floats cells => cells.map (·.isSome)
  | bytes cells => cells.map (·.isSome)
  | decimals cells => cells.map (·.isSome)
  | list present _ _ => present
  | map present _ _ _ => present
  | struct present _ => present
  | union codes _ _ => codes.map fun _ => true
  | foreign _ => []

/-- A row of a column stands for a value: the value of its cell, the values of its slice in order,
the dictionary of the pairs of its slice, the values of its fields, or the value of the branch that
its code names. -/
inductive Denotes : ColumnType → ColumnData → Nat → Value → Prop
  | missing {type : ColumnType} {data : ColumnData} {row : Nat}
      (absent : data.presence[row]? = some false) : Denotes type data row .null
  | boolean {cells : List (Option Int)} {row : Nat} {value : Bool}
      (found : cells[row]? = some (some (if value then 1 else 0))) :
      Denotes .boolean (.integers cells) row (.bool value)
  | integer {signed : Bool} {bits : Nat} {cells : List (Option Int)} {row : Nat} {value : Int}
      (found : cells[row]? = some (some value)) :
      Denotes (.integer signed bits) (.integers cells) row (.int value)
  | floating {width : FloatWidth} {cells : List (Option Binary64)} {row : Nat} {value : Binary64}
      (found : cells[row]? = some (some value)) :
      Denotes (.floating width) (.floats cells) row (.float value)
  | text {large : Bool} {cells : List (Option (List UInt8))} {row : Nat} {value : String}
      (found : cells[row]? = some (some (Utf8.encode value.toList))) :
      Denotes (.text large) (.bytes cells) row (.text value)
  | binary {large : Bool} {cells : List (Option (List UInt8))} {row : Nat} {value : List UInt8}
      (found : cells[row]? = some (some value)) :
      Denotes (.binary large) (.bytes cells) row (.bytes value)
  | date {cells : List (Option Int)} {row : Nat} {value : Date}
      (found : cells[row]? = some (some value.epochDay)) :
      Denotes .date (.integers cells) row (.date value)
  | timestamp {unit : TimeUnit} {cells : List (Option Int)} {row : Nat} {count : Int}
      {value : Timestamp} (found : cells[row]? = some (some count))
      (floor : value.IsFloorOf (count * unit.nanos)) :
      Denotes (.timestamp unit) (.integers cells) row (.timestamp value)
  | decimal {precision scale : Int} {cells : List (Option Decimal)} {row : Nat} {value : Decimal}
      (found : cells[row]? = some (some value)) :
      Denotes (.decimal precision scale) (.decimals cells) row (.decimal value)
  | list {element : ColumnType} {present : List Bool} {bounds : List Int} {child : ColumnData}
      {row first : Nat} {values : List Value} (there : present[row]? = some true)
      (slice : IsSlice bounds row first values.length)
      (elements : ∀ (place : Nat) (value : Value), values[place]? = some value →
        Denotes element child (first + place) value) :
      Denotes (.list element) (.list present bounds child) row (.list values)
  | map {key value : ColumnType} {present : List Bool} {bounds : List Int}
      {keys values : ColumnData} {row first : Nat} {pairs : List (Value × Value)}
      (there : present[row]? = some true) (slice : IsSlice bounds row first pairs.length)
      (entryKeys : ∀ (place : Nat) (pair : Value × Value), pairs[place]? = some pair →
        Denotes key keys (first + place) pair.1)
      (entryValues : ∀ (place : Nat) (pair : Value × Value), pairs[place]? = some pair →
        Denotes value values (first + place) pair.2) :
      Denotes (.map key value) (.map present bounds keys values) row
        (.map (Value.dictionary pairs))
  | struct {fields : List (String × ColumnType)} {present : List Bool} {columns : List ColumnData}
      {row : Nat} {values : List Value} (there : present[row]? = some true)
      (width : values.length = fields.length)
      (parts : ∀ (place : Nat) (field : String × ColumnType) (column : ColumnData) (value : Value),
        fields[place]? = some field → columns[place]? = some column → values[place]? = some value →
        Denotes field.2 column row value) :
      Denotes (.struct fields) (.struct present columns) row (.row values none)
  | union {dense : Bool} {branches : List (String × ColumnType)} {codes rowCodes : List Int}
      {columns : List ColumnData} {offsets : Option (List Int)} {row place target : Nat}
      {code : Int} {branch : String × ColumnType} {column : ColumnData} {declared : NativeType}
      {value : Value} (coded : rowCodes[row]? = some code) (named : codes.idxOf? code = some place)
      (branchType : branches[place]? = some branch) (branchData : columns[place]? = some column)
      (accepted : NativeType.ofColumn branch.2 = .ok declared)
      (addressed : if dense then ∃ rows, offsets = some rows ∧ rows[row]? = some (target : Int)
        else target = row)
      (part : Denotes branch.2 column target value) :
      Denotes (.union dense branches codes) (.union rowCodes columns offsets) row
        (.union place declared value)

/-- The bounds of a number of rows delimit slices of a number of children. -/
def AreBounds (bounds : List Int) (rows room : Nat) : Prop :=
  bounds.length = rows + 1 ∧
    ∀ row, row < rows → ∃ first count, IsSlice bounds row first count ∧ first + count ≤ room

/-- The data that a column of a type may have: cells are in the range of the type and text is
well-formed, rows of lists and maps delimit slices of their children, fields have the rows of their
struct, and every row of a union has a known code and a row of its branch. -/
inductive Valid : ColumnType → ColumnData → Prop
  | boolean {cells : List (Option Int)}
      (range : ∀ value, some value ∈ cells → value = 0 ∨ value = 1) :
      Valid .boolean (.integers cells)
  | integer {bits : Nat} {cells : List (Option Int)}
      (range : ∀ value, some value ∈ cells → FitsBits bits value) :
      Valid (.integer true bits) (.integers cells)
  | single {cells : List (Option Binary64)} (range : ∀ value, some value ∈ cells → value.IsSingle) :
      Valid (.floating .single) (.floats cells)
  | double {cells : List (Option Binary64)} : Valid (.floating .double) (.floats cells)
  | text {large : Bool} {cells : List (Option (List UInt8))}
      (range : ∀ value, some value ∈ cells → ∃ chars, Utf8.encode chars = value) :
      Valid (.text large) (.bytes cells)
  | binary {large : Bool} {cells : List (Option (List UInt8))} :
      Valid (.binary large) (.bytes cells)
  | date {cells : List (Option Int)} : Valid .date (.integers cells)
  | timestamp {unit : TimeUnit} {cells : List (Option Int)} :
      Valid (.timestamp unit) (.integers cells)
  | decimal {precision scale : Int} {cells : List (Option Decimal)}
      (range : ∀ value, some value ∈ cells →
        ∃ negative coefficient, value = .finite negative coefficient (-scale)) :
      Valid (.decimal precision scale) (.decimals cells)
  | list {element : ColumnType} {present : List Bool} {bounds : List Int} {child : ColumnData}
      (slices : AreBounds bounds present.length child.length) (inner : Valid element child) :
      Valid (.list element) (.list present bounds child)
  | map {key value : ColumnType} {present : List Bool} {bounds : List Int}
      {keys values : ColumnData} (slices : AreBounds bounds present.length keys.length)
      (paired : values.length = keys.length) (innerKey : Valid key keys)
      (innerValue : Valid value values) : Valid (.map key value) (.map present bounds keys values)
  | struct {fields : List (String × ColumnType)} {present : List Bool} {columns : List ColumnData}
      (width : columns.length = fields.length)
      (rows : ∀ column ∈ columns, column.length = present.length)
      (inner : ∀ (place : Nat) (field : String × ColumnType) (column : ColumnData),
        fields[place]? = some field → columns[place]? = some column → Valid field.2 column) :
      Valid (.struct fields) (.struct present columns)
  | union {dense : Bool} {branches : List (String × ColumnType)} {codes rowCodes : List Int}
      {columns : List ColumnData} {offsets : Option (List Int)}
      (width : columns.length = branches.length) (coded : codes.length = branches.length)
      (known : ∀ code ∈ rowCodes, code ∈ codes)
      (inner : ∀ (place : Nat) (branch : String × ColumnType) (column : ColumnData),
        branches[place]? = some branch → columns[place]? = some column → Valid branch.2 column)
      (rows : ∀ (row place : Nat) (code : Int) (column : ColumnData), rowCodes[row]? = some code →
        codes.idxOf? code = some place → columns[place]? = some column →
        ∃ target : Nat, target < column.length ∧
          if dense then ∃ rows, offsets = some rows ∧ rows[row]? = some (target : Int)
          else target = row) :
      Valid (.union dense branches codes) (.union rowCodes columns offsets)

/-- A row of a column has a row of another column among its parts, or is that row. -/
inductive Reaches (leaf : ColumnType) (cells : ColumnData) (place : Nat) :
    ColumnType → ColumnData → Nat → Prop
  | here : Reaches leaf cells place leaf cells place
  | element {type : ColumnType} {present : List Bool} {bounds : List Int} {child : ColumnData}
      {row first count child' : Nat} (there : present[row]? = some true)
      (slice : IsSlice bounds row first count) (inside : child' < count)
      (rest : Reaches leaf cells place type child (first + child')) :
      Reaches leaf cells place (.list type) (.list present bounds child) row
  | key {key value : ColumnType} {present : List Bool} {bounds : List Int}
      {keys values : ColumnData} {row first count entry : Nat} (there : present[row]? = some true)
      (slice : IsSlice bounds row first count) (inside : entry < count)
      (rest : Reaches leaf cells place key keys (first + entry)) :
      Reaches leaf cells place (.map key value) (.map present bounds keys values) row
  | value {key value : ColumnType} {present : List Bool} {bounds : List Int}
      {keys values : ColumnData} {row first count entry : Nat} (there : present[row]? = some true)
      (slice : IsSlice bounds row first count) (inside : entry < count)
      (rest : Reaches leaf cells place value values (first + entry)) :
      Reaches leaf cells place (.map key value) (.map present bounds keys values) row
  | field {fields : List (String × ColumnType)} {present : List Bool} {columns : List ColumnData}
      {row position : Nat} {type : String × ColumnType} {column : ColumnData}
      (there : present[row]? = some true) (fieldType : fields[position]? = some type)
      (fieldData : columns[position]? = some column)
      (rest : Reaches leaf cells place type.2 column row) :
      Reaches leaf cells place (.struct fields) (.struct present columns) row
  | branch {dense : Bool} {branches : List (String × ColumnType)} {codes rowCodes : List Int}
      {columns : List ColumnData} {offsets : Option (List Int)} {row position target : Nat}
      {code : Int} {type : String × ColumnType} {column : ColumnData}
      (coded : rowCodes[row]? = some code) (named : codes.idxOf? code = some position)
      (branchType : branches[position]? = some type) (branchData : columns[position]? = some column)
      (addressed : if dense then ∃ rows, offsets = some rows ∧ rows[row]? = some (target : Int)
        else target = row)
      (rest : Reaches leaf cells place type.2 column target) :
      Reaches leaf cells place (.union dense branches codes) (.union rowCodes columns offsets) row

/-- The dates and timestamps that belong to a row lie in the years 1 to 9999. -/
structure InCalendar (type : ColumnType) (data : ColumnData) (row : Nat) : Prop where
  /-- Every date of the row is a date. -/
  dates : ∀ (cells : List (Option Int)) (place : Nat) (day : Int),
    Reaches .date (.integers cells) place type data row → cells[place]? = some (some day) →
    ∃ date : Date, date.epochDay = day
  /-- Every timestamp of the row lies in range. -/
  timestamps : ∀ (unit : TimeUnit) (cells : List (Option Int)) (place : Nat) (count : Int),
    Reaches (.timestamp unit) (.integers cells) place type data row →
    cells[place]? = some (some count) → InYears (count * unit.nanos)

end ColumnData

end OrcRows
