import OrcRows.Table.Column
import OrcRows.Vector

/-!
# Column vectors of table columns

A column becomes a vector of the kind that its category is read from. A missing leaf leaves a filler
behind its null flag, except that a missing decimal stays missing. Timestamps are split into
milliseconds and the nanoseconds within the second, codes of unions become positions of branches.
-/

namespace OrcRows

namespace RowFlags

/-- The flags of rows that are there or missing. -/
def ofPresent (present : List Bool) : RowFlags :=
  if present.all id then ⟨present.map fun _ => false, true, false⟩
  else ⟨present.map (!·), false, false⟩

/-- The flags of a number of rows without nulls. -/
def allPresent (rows : Nat) : RowFlags := ⟨List.replicate rows false, true, false⟩

end RowFlags

/-- Cells with a filler where they are missing. -/
def filled {α : Type} (filler : α) (cells : List (Option α)) : List α := cells.map (·.getD filler)

/-- Seconds as milliseconds, and nanoseconds within the second, of a number of nanoseconds. -/
def splitNanos (nanos : Int) : Int × Int :=
  let second := nanos.fdiv 1000000000
  let rest := nanos.fmod 1000000000
  (second * 1000 + rest.fdiv 1000000, rest)

/-- The storage of timestamps counted in a unit. -/
def LeafCells.ofCounts (unit : TimeUnit) (counts : List Int) : LeafCells :=
  let split := counts.map fun count => splitNanos (count * unit.nanos)
  .timestamp (split.map (·.1)) (split.map (·.2))

/-- The lengths of the slices between bounds. -/
def lengthsBetween (bounds : List Int) : List Int :=
  (bounds.zip bounds.tail).map fun pair => pair.2 - pair.1

namespace ColumnVector

/-- A leaf vector of cells that may be missing. -/
def ofCells {α : Type} (cells : List (Option α)) (store : List (Option α) → LeafCells) :
    ColumnVector :=
  leaf (.ofPresent (cells.map (·.isSome))) (store cells)

/-- Reports a column type that no vector can hold. -/
def withoutVector (type : ColumnType) : Outcome ColumnVector :=
  .error (.report .readerOperationFailed "no column vector for arrow type"
    [("category", .text type.name)])

mutual

/-- The vector of a column. Data of another shape than its type is a breakdown. -/
def ofColumn (type : ColumnType) (array : ColumnData) : Outcome ColumnVector :=
  match type, array with
  | .foreign name, _ => withoutVector (.foreign name)
  | .timestamp unit, .integers cells =>
    .ok (ofCells cells fun cells => .ofCounts unit (filled 0 cells))
  | .boolean, .integers cells | .integer .., .integers cells | .date, .integers cells =>
    .ok (ofCells cells fun cells => .long (filled 0 cells))
  | .floating _, .floats cells =>
    .ok (ofCells cells fun cells => .double (filled .zero cells))
  | .text _, .bytes cells | .binary _, .bytes cells =>
    .ok (ofCells cells fun cells => .bytes (filled [] cells))
  | .decimal .., .decimals cells =>
    .ok (ofCells cells fun cells => .decimal (cells.map fun cell => (cell.map .decimal).getD .null))
  | .list element, .list present bounds child => do
    let child ← ofColumn element child
    return list (.ofPresent present) bounds.dropLast (lengthsBetween bounds) (some child)
  | .map key value, .map present bounds keys values => do
    let keys ← ofColumn key keys
    let values ← ofColumn value values
    return map (.ofPresent present) bounds.dropLast (lengthsBetween bounds) (some keys)
      (some values)
  | .struct fields, .struct present columns => do
    return struct (.ofPresent present) (← ofColumns fields columns)
  | .union dense branches codes, .union rowCodes columns offsets => do
    let tags ← rowCodes.mapM fun code =>
      Outcome.ofOption .badValue ((codes.idxOf? code).map fun (place : Nat) => (place : Int))
    let vectors ← ofColumns branches columns
    return union (.allPresent rowCodes.length) tags vectors (if dense then offsets else none)
  | _, _ => .error (.broken .illTyped)

/-- The vectors of the columns of fields or branches. -/
def ofColumns : List (String × ColumnType) → List ColumnData → Outcome (List ColumnVector)
  | (_, type) :: fields, column :: columns => do
    let vector ← ofColumn type column
    return vector :: (← ofColumns fields columns)
  | [], [] => .ok []
  | _, _ => .error (.broken .illTyped)

end

end ColumnVector

/-- Columns of a table read at one time. -/
structure RecordBatch where
  /-- The columns with their names, types and data. -/
  columns : List (String × ColumnType × ColumnData)

namespace RecordBatch

/-- The number of rows; without columns there are none. -/
def rows (batch : RecordBatch) : Nat :=
  match batch.columns with
  | [] => 0
  | (_, _, array) :: _ => array.length

/-- The column of a name. A name that is missing or not unique has no index, and what is found
without an index is the last column. -/
def column? (batch : RecordBatch) (name : String) : Option (ColumnType × ColumnData) :=
  match batch.columns.filter (·.1 == name) with
  | [column] => some column.2
  | _ => batch.columns.getLast?.map (·.2)

/-- The vector of the column of a name. -/
def vector (batch : RecordBatch) (name : String) : Outcome ColumnVector := do
  let (type, array) ← Outcome.ofOption .outOfRange (batch.column? name)
  ColumnVector.ofColumn type array

/-- The batch of vectors in order of names. -/
def toBatch (batch : RecordBatch) (names : List String) : Outcome Batch := do
  return ⟨batch.rows, (← names.mapM batch.vector).map some⟩

end RecordBatch

end OrcRows
