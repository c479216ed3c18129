import OrcRows.Unified

/-!
# Rows as records and columns

A row gets names from a schema: as a record, whose nested rows become records where the schema says
so, or as one entry in each column of a frame. In frames a map is a list of records of a key and a
value, and a row of the wrong width is refused as a whole, so columns keep one length. What a column
of a type can hold is left to the library that makes the frame.
-/

namespace OrcRows

namespace Value

mutual

/-- A value under a type, its rows named by the row types they meet. -/
def named (type : UnifiedType) (value : Value) : Value :=
  match type, value with
  | .row types, row fields _ => map (namedFields types fields)
  | _, value => value

/-- The values of fields under the names and types of a row type, as far as both reach. -/
def namedFields : List (String × UnifiedType) → List Value → List (Value × Value)
  | (name, type) :: types, value :: values =>
    (text name, named type value) :: namedFields types values
  | _, _ => []

end

/-- The record of a key and a value. -/
def keyValue (key value : Value) : Value := map [(text "key", key), (text "value", value)]

mutual

/-- A value in the form that a frame holds. -/
def columnar (type : UnifiedType) (value : Value) : Value :=
  match type, value with
  | .row types, row fields _ => map (columnarFields types fields)
  | .map keyType valueType, map entries =>
    list (entries.map fun entry =>
      keyValue (columnar keyType entry.1) (columnar valueType entry.2))
  | _, value => value

/-- Fields in the form that a frame holds, as far as names and values reach. -/
def columnarFields : List (String × UnifiedType) → List Value → List (Value × Value)
  | (name, type) :: types, value :: values =>
    (text name, columnar type value) :: columnarFields types values
  | _, _ => []

end

end Value

/-- The type of a column without parts. -/
inductive FrameLeaf where
  | boolean | int8 | int16 | int32 | int64 | float32 | float64 | string | binary | date | time
  | datetime
  deriving DecidableEq, Repr

/-- The name of a leaf type. -/
def FrameLeaf.name : FrameLeaf → String
  | boolean => "Boolean"
  | int8 => "Int8"
  | int16 => "Int16"
  | int32 => "Int32"
  | int64 => "Int64"
  | float32 => "Float32"
  | float64 => "Float64"
  | string => "String"
  | binary => "Binary"
  | date => "Date"
  | time => "Time"
  | datetime => "Datetime[us]"

/-- The leaf type of a tag that is one. -/
def FrameLeaf.ofTag? : TypeTag → Option FrameLeaf
  | .boolean => some boolean
  | .tinyint => some int8
  | .smallint => some int16
  | .int => some int32
  | .bigint => some int64
  | .float => some float32
  | .double => some float64
  | .string => some string
  | .bytes => some binary
  | .date => some date
  | .time => some time
  | .timestamp => some datetime
  | .decimal | .array | .map | .row => none

/-- The type of a column. -/
inductive FrameType where
  | leaf (leaf : FrameLeaf)
  | decimal (precision scale : Option Int)
  | list (element : FrameType)
  | record (fields : List (String × FrameType))

namespace FrameType

mutual

/-- The type of a column of a type of rows; a tag of a type with parts does not tell them. -/
def ofUnified : UnifiedType → Outcome FrameType
  | .basic tag => (Outcome.ofOption .missingKey (FrameLeaf.ofTag? tag)).map leaf
  | .decimal precision scale => .ok (decimal precision scale)
  | .array element => do return list (← ofUnified element)
  | .map key value => do
    let key ← ofUnified key
    return list (record [("key", key), ("value", ← ofUnified value)])
  | .row fields => do return record (← ofFields fields)

/-- The types of the columns of fields. -/
def ofFields : List (String × UnifiedType) → Outcome (List (String × FrameType))
  | [] => .ok []
  | (name, type) :: rest => do
    let column ← ofUnified type
    return (name, column) :: (← ofFields rest)

end

end FrameType

/-- A library of frames: how it makes a column of a name, a type and values, and a frame of
columns. -/
structure FrameLibrary (Column Frame : Type) where
  /-- The column of a name, a type and values. -/
  column : String → FrameType → List Value → Outcome Column
  /-- The frame of some columns. -/
  frame : List Column → Outcome Frame

/-- Columns that are being filled row by row. -/
structure Collector where
  /-- Names and types of the columns. -/
  schema : Schema
  /-- The values of the columns so far. -/
  columns : List (List Value)

namespace Collector

/-- Empty columns. -/
def start (schema : Schema) : Collector := ⟨schema, schema.fields.map fun _ => []⟩

/-- One more row. -/
def push (collector : Collector) (row : List Value) : Collector :=
  let entries := (collector.schema.types.zip row).map fun (type, value) => Value.columnar type value
  ⟨collector.schema, (collector.columns.zip entries).map fun (column, entry) => column ++ [entry]⟩

/-- Collects a row; one of the wrong width is refused. -/
def collect (collector : Collector) (row : List Value) : Outcome Collector :=
  if row.length = collector.schema.width then .ok (collector.push row)
  else .error (.broken .badValue)

/-- Collects what may be a row; anything else has no width and is refused. -/
def collectRow (collector : Collector) : Value → Outcome Collector
  | .row fields _ => collector.collect fields
  | _ => .error (.broken .illTyped)

/-- Offers what may be a row: what comes of it, and the collector afterwards. What is refused leaves
the columns as they are. -/
def offer (collector : Collector) (row : Value) : Outcome Unit × Collector :=
  match collector.collectRow row with
  | .ok filled => (.ok (), filled)
  | .error fault => (.error fault, collector)

/-- Offers rows one after the other: what comes of each, and the collector afterwards. -/
def offers (collector : Collector) : List Value → List (Outcome Unit) × Collector
  | [] => ([], collector)
  | row :: rest =>
    let (outcome, filled) := collector.offer row
    let (outcomes, last) := filled.offers rest
    (outcome :: outcomes, last)

/-- The frame of the columns, each of them made of its name, its type and its values. -/
def toFrame {Column Frame : Type} (library : FrameLibrary Column Frame) (collector : Collector) :
    Outcome Frame := do
  let columns ← (collector.schema.fields.zip collector.columns).mapM fun (field, values) => do
    library.column field.1 (← FrameType.ofUnified field.2) values
  library.frame columns

end Collector

end OrcRows
