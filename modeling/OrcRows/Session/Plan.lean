import OrcRows.Cell.Decode
import OrcRows.Partition
import OrcRows.Reader.Source

/-!
# Rows of batches

A read has a plan: the columns with their declared types and the types of their rows, the partition
values behind them, and the identifier put on every row. A batch has to have one vector per column.
A report about a cell names the column and the row, counted over all batches.
-/

namespace OrcRows

/-- A column of a read. -/
structure PlanColumn where
  /-- The name of the column. -/
  name : String
  /-- The type that the file declares. -/
  declared : NativeType
  /-- The type of the column in rows. -/
  type : UnifiedType

/-- What is fixed for a read before its first row. -/
structure ReadPlan where
  /-- The location of the file. -/
  uri : String
  /-- How bytes become text. -/
  policy : TextPolicy
  /-- The columns in order. -/
  columns : List PlanColumn
  /-- The partition values in order. -/
  tail : List (Option String)
  /-- The identifier of the table that rows belong to. -/
  tableId : Option String

/-- What is left of a read: the batch that is being read, its next row, and what comes after it. -/
structure Remainder where
  /-- The batch that is being read. -/
  batch : Batch
  /-- The next row of the batch. -/
  row : Nat
  /-- What comes after the batch. -/
  feed : Feed

namespace Remainder

/-- All of a feed. -/
def ofFeed (feed : Feed) : Remainder := ⟨⟨0, []⟩, 0, feed⟩

/-- The number of rows that are left, at most. -/
def rows (remainder : Remainder) : Nat :=
  (remainder.batch.size - remainder.row) + remainder.feed.rows

end Remainder

/-- A text that may be missing, as a value. -/
def Value.ofText : Option String → Value
  | some value => .text value
  | none => .null

namespace ReadPlan

/-- The names of the columns. -/
def names (plan : ReadPlan) : List String := plan.columns.map (·.name)

/-- The cell of a column; a missing vector has missing cells only. -/
def cell (plan : ReadPlan) (row emitted : Nat) (column : PlanColumn) :
    Option ColumnVector → Outcome Value
  | none => .ok .null
  | some vector =>
    (vector.cell plan.policy column.declared (some column.type) row).addContext
      [("column", .text column.name), ("file_row", .int emitted)]

/-- The cells of a row of a batch. -/
def cells (plan : ReadPlan) (batch : Batch) (row emitted : Nat) : Outcome (List Value) :=
  (plan.columns.zip batch.columns).mapM fun (column, vector) => plan.cell row emitted column vector

/-- A row of a batch: its cells, then the partition values. -/
def row (plan : ReadPlan) (batch : Batch) (row emitted : Nat) : Outcome Value := do
  let cells ← plan.cells batch row emitted
  return .row (cells ++ plan.tail.map Value.ofText) plan.tableId

/-- Reports a batch that does not have one vector per column. -/
def checkWidth (plan : ReadPlan) (batch : Batch) : Outcome Unit :=
  if batch.columns.length = plan.columns.length then .ok ()
  else .error (.report .illegalArgument "batch column count does not match schema"
    [("path", .text plan.uri), ("columns", .int batch.columns.length),
     ("expected", .int plan.columns.length)])

/-- The next row of a feed, with what is left after it; nothing at the end. -/
def pullFeed (plan : ReadPlan) (emitted : Nat) : Feed → Outcome (Option (Value × Remainder))
  | [] => .ok none
  | .error fault :: _ => .error fault
  | .ok none :: rest => plan.pullFeed emitted rest
  | .ok (some batch) :: rest => do
    plan.checkWidth batch
    if batch.size = 0 then plan.pullFeed emitted rest
    else return some (← plan.row batch 0 emitted, ⟨batch, 1, rest⟩)

/-- The next row of what is left, with what is left after it; nothing at the end. -/
def pull (plan : ReadPlan) (emitted : Nat) (remainder : Remainder) :
    Outcome (Option (Value × Remainder)) :=
  if remainder.row < remainder.batch.size then do
    let row ← plan.row remainder.batch remainder.row emitted
    return some (row, ⟨remainder.batch, remainder.row + 1, remainder.feed⟩)
  else plan.pullFeed emitted remainder.feed

end ReadPlan

end OrcRows
