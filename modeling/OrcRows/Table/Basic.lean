import OrcRows.Table.Batch

/-!
# Tables

A table is cut into stripes, each with one array per column or with the cause for which it cannot be
read; it may refuse to be opened at all.
-/

namespace OrcRows

/-- A table of columns in stripes. -/
structure Table where
  /-- Names and types of the columns. -/
  fields : List (String × ColumnType)
  /-- The columns of the stripes, or why a stripe cannot be read. -/
  stripes : List (Except Breakdown (List ColumnData))
  /-- Why the table cannot be opened, if it cannot. -/
  refusal : Option Breakdown

namespace Table

/-- A table that the table library rejects. -/
def malformed : Table := ⟨[], [], some .malformedTable⟩

/-- The columns of a stripe that a projection asks for, in file order; all if it asks for none. -/
def stripeBatch (table : Table) (names : List String) (arrays : List ColumnData) : RecordBatch :=
  let columns := (table.fields.zip arrays).map fun ((name, type), array) => (name, type, array)
  ⟨if names.isEmpty then columns else columns.filter fun column => names.contains column.1⟩

/-- Whether a projection asks for a name that several columns have. -/
def repeats (table : Table) (names : List String) : Bool :=
  names.any fun name => 1 < (table.fields.map (·.1)).count name

end Table

end OrcRows
