import OrcRows.Unified

/-!
# Types of table columns

The table library hands over columns of its own types. A type that has a category becomes a declared
type, its parts with it; the innermost type that has none is reported under its name.
-/

namespace OrcRows

/-- A unit of time. -/
inductive TimeUnit where
  | second | milli | micro | nano
  deriving DecidableEq, Repr

/-- The number of nanoseconds of a unit. -/
def TimeUnit.nanos : TimeUnit → Int
  | second => 1000000000
  | milli => 1000000
  | micro => 1000
  | nano => 1

/-- The width of a floating-point type. -/
inductive FloatWidth where
  | half | single | double
  deriving DecidableEq, Repr

/-- The type of a table column. -/
inductive ColumnType where
  | boolean
  | integer (signed : Bool) (bits : Nat)
  | floating (width : FloatWidth)
  /-- Text; large text has wider offsets. -/
  | text (large : Bool)
  /-- Bytes; large bytes have wider offsets. -/
  | binary (large : Bool)
  /-- Days from 1970-01-01. -/
  | date
  | timestamp (unit : TimeUnit)
  | decimal (precision scale : Int)
  | list (element : ColumnType)
  | map (key value : ColumnType)
  | struct (fields : List (String × ColumnType))
  /-- A union of named branches with a code for each; rows of a dense union have offsets. -/
  | union (dense : Bool) (branches : List (String × ColumnType)) (codes : List Int)
  /-- A type that cannot be read. -/
  | foreign (name : String)

namespace ColumnType

instance : Inhabited ColumnType := ⟨boolean⟩

/-- Types without parts under their names. -/
def named : List (String × ColumnType) :=
  [("bool", boolean), ("int8", integer true 8), ("int16", integer true 16),
   ("int32", integer true 32), ("int64", integer true 64), ("uint8", integer false 8),
   ("uint16", integer false 16), ("uint32", integer false 32), ("uint64", integer false 64),
   ("halffloat", floating .half), ("float", floating .single), ("double", floating .double),
   ("string", text false), ("large_string", text true), ("binary", binary false),
   ("large_binary", binary true), ("date32[day]", date), ("timestamp[s]", timestamp .second),
   ("timestamp[ms]", timestamp .milli), ("timestamp[us]", timestamp .micro),
   ("timestamp[ns]", timestamp .nano)]

/-- The type of a name; the zone of a timestamp does not count. -/
def ofName (name : String) : ColumnType :=
  let letters := name.toList
  let zoneless :=
    if name.startsWith "timestamp[" then letters.takeWhile (· ≠ ',') else letters
  let closed := if zoneless.length < letters.length then zoneless ++ [']'] else zoneless
  (named.lookup (String.ofList closed)).getD (foreign name)

/-- The name of a type without parts; composite types have no name of their own here. -/
def name : ColumnType → String
  | boolean => "bool"
  | integer signed bits => (if signed then "int" else "uint") ++ toString bits
  | floating .half => "halffloat"
  | floating .single => "float"
  | floating .double => "double"
  | foreign name => name
  | _ => ""

end ColumnType

namespace NativeType

/-- Reports a type without a category. -/
def withoutCategory (type : ColumnType) : Outcome NativeType :=
  .error (.report .unsupportedDataType "arrow type has no ORC category"
    [("category", .text type.name)])

mutual

/-- The declared type of a column type. -/
def ofColumn : ColumnType → Outcome NativeType
  | .boolean => .ok (primitive .boolean)
  | .integer true 8 => .ok (primitive .tinyint)
  | .integer true 16 => .ok (primitive .smallint)
  | .integer true 32 => .ok (primitive .int)
  | .integer true 64 => .ok (primitive .bigint)
  | .floating .single => .ok (primitive .float)
  | .floating .double => .ok (primitive .double)
  | .text _ => .ok (primitive .string)
  | .binary _ => .ok (primitive .binary)
  | .date => .ok (primitive .date)
  | .timestamp _ => .ok (primitive .timestamp)
  | .decimal precision scale => .ok (decimal (some precision) (some scale))
  | .list element => do return list (← ofColumn element)
  | .map key value => do
    let key ← ofColumn key
    return map key (← ofColumn value)
  | .struct fields => do return struct (← ofColumns fields)
  | .union _ branches _ => do return union ((← ofColumns branches).map (·.2))
  | type => withoutCategory type

/-- The declared types of named column types. -/
def ofColumns : List (String × ColumnType) → Outcome (List (String × NativeType))
  | [] => .ok []
  | (name, type) :: rest => do
    let native ← ofColumn type
    return (name, native) :: (← ofColumns rest)

end

/-- The declared type of a table: a struct of its columns. -/
def ofTable (fields : List (String × ColumnType)) : Outcome NativeType :=
  (ofColumns fields).map struct

end NativeType

end OrcRows
