import OrcRows.Table.Basic

/-!
# What readers serve

A table serves the batches of its stripes, a script a sequence of batches given outright. Either
serves, stripe by stripe or batch by batch, what a projection asks for, or the fault for which it
cannot.
-/

namespace OrcRows

/-- A declared type and batches given outright. -/
structure Script where
  /-- The declared type. -/
  schema : NativeType
  /-- The batches, or the faults that take their place. -/
  batches : List (Outcome Batch)
  /-- Why the script cannot be opened, if it cannot. -/
  refusal : Option Fault

/-- What the readers of a file find in it. -/
inductive Source where
  | table (table : Table)
  | script (script : Script)

/-- What comes next from a reader: a batch, nothing for an empty stripe, or a fault. -/
abbrev Feed := List (Outcome (Option Batch))

/-- The fault of a reader: a report if the file or its contents cannot be read. -/
def readerFault (message : String) (facts : List (String × Value)) (cause : Breakdown) : Fault :=
  if cause.isReadFailure then .report .readerOperationFailed message facts else .broken cause

namespace Table

/-- The batch of a stripe, in order of a projection; an empty stripe has none, and rows cannot be
served under a name that several columns have. -/
def serveStripe (table : Table) (uri : String) (names : List String) (place : Nat)
    (stripe : Except Breakdown (List ColumnData)) : Outcome (Option Batch) :=
  match stripe with
  | .error cause => .error (readerFault "read orc stripe failed"
      [("path", .text uri), ("stripe", .int place)] cause)
  | .ok arrays =>
    let batch := table.stripeBatch names arrays
    if batch.rows = 0 then .ok none
    else if table.repeats names then .error (.broken .missingKey)
    else (batch.toBatch names).map some

/-- What a table serves to a projection. -/
def feed (table : Table) (uri : String) (names : List String) : Feed :=
  table.stripes.mapIdx fun place stripe => table.serveStripe uri names place stripe

end Table

namespace Source

/-- The table of a source; a script holds none. -/
def asTable : Source → Table
  | .table held => held
  | .script _ => .malformed

/-- The script of a source; a table holds none. -/
def asScript : Source → Script
  | .script held => held
  | .table _ => ⟨.primitive .struct, [], some (.broken .missingKey)⟩

end Source

/-- The number of rows in a feed up to its first fault, at most. -/
def Feed.rows : Feed → Nat
  | [] => 0
  | .ok (some batch) :: rest => batch.size + Feed.rows rest
  | _ :: rest => Feed.rows rest

end OrcRows
