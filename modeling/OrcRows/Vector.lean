import OrcRows.Position
import OrcRows.Report

/-!
# Column vectors

A batch holds one vector for every column that is read. A vector knows which of its rows are null
and whether its first row stands for all of them. The cells of a leaf vector lie in flat storage;
list and map vectors address slices of child vectors, struct vectors have a vector for every field,
and union vectors a tag for every row and a vector for every branch. Storage is taken as it comes:
a row that it does not reach is a breakdown, not a default.
-/

namespace OrcRows

/-- What every vector knows about its rows. -/
structure RowFlags where
  /-- A null flag for every row. -/
  isNull : List Bool
  /-- No row is null, whatever the flags say. -/
  noNulls : Bool
  /-- The first row stands for all rows. -/
  isRepeating : Bool
  deriving DecidableEq, Repr

namespace RowFlags

/-- The place in storage of a row. -/
def index (flags : RowFlags) (row : Int) : Int := if flags.isRepeating then 0 else row

/-- Whether a row is null. -/
def nullAt (flags : RowFlags) (row : Int) : Outcome Bool :=
  if flags.noNulls then .ok false
  else Outcome.ofOption .outOfRange (Position.get? flags.isNull (flags.index row))

/-- All rows of a repeating vector are null if one is. -/
theorem nullAt_of_isRepeating {flags : RowFlags} (repeating : flags.isRepeating = true)
    (row row' : Int) : flags.nullAt row = flags.nullAt row' := by
  simp [nullAt, index, repeating]

end RowFlags

/-- The storage of a leaf vector. -/
inductive LeafCells where
  | long (values : List Int)
  | double (values : List Binary64)
  | bytes (values : List (List UInt8))
  /-- Decimals, or values whose text is that of a decimal. -/
  | decimal (values : List Value)
  /-- Milliseconds from 1970-01-01, and nanoseconds within the second. -/
  | timestamp (millis nanos : List Int)

/-- The name of a kind of leaf storage. -/
def LeafCells.kindName : LeafCells → String
  | long _ => "LONG"
  | double _ => "DOUBLE"
  | bytes _ => "BYTES"
  | decimal _ => "DECIMAL"
  | timestamp _ _ => "TIMESTAMP"

/-- The vector of a column. -/
inductive ColumnVector where
  | leaf (flags : RowFlags) (cells : LeafCells)
  | list (flags : RowFlags) (offsets lengths : List Int) (child : Option ColumnVector)
  | map (flags : RowFlags) (offsets lengths : List Int) (keys values : Option ColumnVector)
  | struct (flags : RowFlags) (fields : List ColumnVector)
  /-- Without offsets, a row of a union is the same row of its branch. -/
  | union (flags : RowFlags) (tags : List Int) (branches : List ColumnVector)
      (offsets : Option (List Int))
  /-- A vector of no kind. -/
  | untyped (flags : RowFlags)

namespace ColumnVector

instance : Inhabited ColumnVector := ⟨untyped ⟨[], true, false⟩⟩

/-- What a vector knows about its rows. -/
def flags : ColumnVector → RowFlags
  | leaf flags _ => flags
  | list flags _ _ _ => flags
  | map flags _ _ _ _ => flags
  | struct flags _ => flags
  | union flags _ _ _ => flags
  | untyped flags => flags

/-- The name of the kind of a vector. -/
def kindName : ColumnVector → String
  | leaf _ cells => cells.kindName
  | list .. => "LIST"
  | map .. => "MAP"
  | struct .. => "STRUCT"
  | union .. => "UNION"
  | untyped _ => "None"

/-- The name of the kind of a child vector, which may be missing. -/
def childKindName (child : Option ColumnVector) : String := (child.map kindName).getD "None"

/-- The category that goes with a composite vector. -/
def category? : ColumnVector → Option Category
  | list .. => some .list
  | map .. => some .map
  | struct .. => some .struct
  | union .. => some .union
  | leaf .. | untyped _ => none

/-- The row of its branch vector that a row of a union designates. -/
def branchRow (flags : RowFlags) (offsets : Option (List Int)) (row : Int) : Outcome Int :=
  match offsets with
  | none => .ok (flags.index row)
  | some offsets => Outcome.ofOption .outOfRange (Position.get? offsets (flags.index row))

end ColumnVector

/-- The rows read at one time: a vector for every column, which may be missing. -/
structure Batch where
  /-- The number of rows. -/
  size : Nat
  /-- The vectors of the columns in order. -/
  columns : List (Option ColumnVector)

/-- Null flags for plain values. -/
def nullFlags (values : List Value) : List Bool :=
  values.map fun value => match value with
    | .null => true
    | _ => false

end OrcRows
