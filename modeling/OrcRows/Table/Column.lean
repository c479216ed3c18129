import OrcRows.Table.Type
import OrcRows.Cell.Leaf

/-!
# Columns of a table

A column holds its cells in flat arrays. Leaf cells may be missing. Lists and maps are delimited by
bounds in child columns, one more than there are rows; structs and unions have a child column for
every field or branch. `ofCells` lays out cells in the natural way: a missing list or map takes no
room in its children, and under a missing struct every field has an empty cell.
-/

namespace OrcRows

/-- The data of a table column. -/
inductive ColumnData where
  /-- Integers: truth values, days and counts of time units too. -/
  | integers (cells : List (Option Int))
  | floats (cells : List (Option Binary64))
  /-- Bytes: text too. -/
  | bytes (cells : List (Option (List UInt8)))
  | decimals (cells : List (Option Decimal))
  | list (present : List Bool) (bounds : List Int) (child : ColumnData)
  | map (present : List Bool) (bounds : List Int) (keys values : ColumnData)
  | struct (present : List Bool) (fields : List ColumnData)
  /-- A code for every row, and for dense unions the row of the branch. -/
  | union (codes : List Int) (branches : List ColumnData) (offsets : Option (List Int))
  /-- Data that cannot be read. -/
  | foreign (rows : Nat)

namespace ColumnData

instance : Inhabited ColumnData := ⟨foreign 0⟩

/-- The number of rows. -/
def length : ColumnData → Nat
  | integers cells => cells.length
  | floats cells => cells.length
  | bytes cells => cells.length
  | decimals cells => cells.length
  | list present _ _ => present.length
  | map present _ _ _ => present.length
  | struct present _ => present.length
  | union codes _ _ => codes.length
  | foreign rows => rows

/-- The integer of a cell. -/
def integerOf : Value → Option Int
  | .int value => some value
  | .bool value => some (if value then 1 else 0)
  | _ => none

/-- The number of a cell in a column of a width. -/
def floatOf (width : FloatWidth) (cell : Value) : Option Binary64 :=
  let number := match cell with
    | .float value => some value
    | .int value => Binary64.ofInt? value
    | _ => none
  number.map fun value => match width with
    | .half => value.narrow .half
    | .single => value.toSingle
    | .double => value

/-- The bytes of a cell. -/
def bytesOf : Value → Option (List UInt8)
  | .bytes value => some value
  | .text value => some (Utf8.encode value.toList)
  | _ => none

/-- A decimal with the scale of its column. -/
def atScale (scale : Int) : Decimal → Decimal
  | .finite negative coefficient exponent =>
    .finite negative (Decimal.shiftCoefficient coefficient exponent (-scale)) (-scale)
  | other => other

/-- The decimal of a cell in a column of a scale. -/
def decimalOf (scale : Int) (cell : Value) : Option Decimal :=
  (Decimal.ofValue? cell).map (atScale scale)

/-- The members of a cell: elements of a list, entries of a map, fields of a struct. -/
def membersOf : Value → List Value
  | .list members => members
  | _ => []

/-- Whether a cell is there. -/
def isPresent : Value → Bool
  | .null => false
  | _ => true

/-- Bounds of consecutive slices: the sums of the lengths so far, from a first one on. -/
def runningBounds (first : Int) : List Nat → List Int
  | [] => [first]
  | length :: rest => first :: runningBounds (first + length) rest

/-- The place of a member in each of some cells; a missing member is missing. -/
def memberOf (place : Nat) (cell : Value) : Value := ((membersOf cell)[place]?).getD .null

/-- The empty cell of a type. -/
def emptyCell : ColumnType → Value
  | .boolean | .integer .. | .date | .timestamp _ => .int 0
  | .floating _ => .float .zero
  | .text _ | .binary _ => .bytes []
  | .decimal .. => .int 0
  | .list _ | .map .. => .list []
  | .struct fields => .list (emptyCells fields)
  | .union .. | .foreign _ => .null
where
  /-- The empty cells of fields. -/
  emptyCells : List (String × ColumnType) → List Value
    | [] => []
    | (_, type) :: rest => emptyCell type :: emptyCells rest

mutual

/-- The natural layout of cells of a type. -/
def ofCells (type : ColumnType) (cells : List Value) : ColumnData :=
  match type with
  | .boolean | .integer .. | .date | .timestamp _ => integers (cells.map integerOf)
  | .floating width => floats (cells.map (floatOf width))
  | .text _ | .binary _ => bytes (cells.map bytesOf)
  | .decimal _ scale => decimals (cells.map (decimalOf scale))
  | .list element =>
    list (cells.map isPresent) (runningBounds 0 (cells.map fun cell => (membersOf cell).length))
      (ofCells element (cells.flatMap membersOf))
  | .map key value =>
    let entries := cells.flatMap membersOf
    map (cells.map isPresent) (runningBounds 0 (cells.map fun cell => (membersOf cell).length))
      (ofCells key (entries.map (memberOf 0))) (ofCells value (entries.map (memberOf 1)))
  | .struct fields =>
    let filled := cells.map fun cell =>
      if isPresent cell then cell else emptyCell (.struct fields)
    struct (cells.map isPresent) (ofFieldCells fields 0 filled)
  | .union .. | .foreign _ => foreign cells.length

/-- The columns of the fields of a struct, from a place on. -/
def ofFieldCells (fields : List (String × ColumnType)) (place : Nat) (cells : List Value) :
    List ColumnData :=
  match fields with
  | [] => []
  | (_, type) :: rest =>
    ofCells type (cells.map (memberOf place)) :: ofFieldCells rest (place + 1) cells

end

end ColumnData

end OrcRows
