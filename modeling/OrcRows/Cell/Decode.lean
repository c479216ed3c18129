import OrcRows.Cell.Presentation

/-!
# Cells of column vectors

The cell of a vector at a row is read by recursion on the vector, beside its declared type and the
type it was given. A vector and a declared type of different shapes are reported; a row that storage
does not reach is a breakdown. Elements of lists and maps are leaf cells; fields of structs and
branches of unions are cells of any kind.
-/

namespace OrcRows

/-- A leaf cell that is not null, under the type of its column. -/
def leafCell (policy : TextPolicy) (flags : RowFlags) (cells : LeafCells) (declared : NativeType)
    (unified : Option UnifiedType) (row : Int) : Outcome Value := do
  let value ← cells.value policy declared.category unified (flags.index row)
  value.present policy declared.category unified

/-- An element of a list or map: nothing for a null row of the child, else the leaf cell there. -/
def elementCell (policy : TextPolicy) (flags : RowFlags) (cells : LeafCells)
    (declared : NativeType) (unified : Option UnifiedType) (row : Int) : Outcome Value := do
  if ← flags.nullAt row then return .null
  leafCell policy flags cells declared unified row

/-- The declared type at a place below a declared type. -/
def NativeType.child (declared : NativeType) (place : Nat) : Outcome NativeType :=
  Outcome.ofOption .outOfRange declared.children[place]?

/-- The slice that a row of a list or map designates. -/
def slice (flags : RowFlags) (offsets lengths : List Int) (row : Int) : Outcome (Int × Int) := do
  let offset ← Outcome.ofOption .outOfRange (Position.get? offsets (flags.index row))
  let length ← Outcome.ofOption .outOfRange (Position.get? lengths (flags.index row))
  return (offset, length)

/-- What is read at consecutive rows from a first one on. -/
def readRows (read : Int → Outcome Value) (first : Int) : Nat → Outcome (List Value)
  | 0 => .ok []
  | count + 1 => do
    let value ← read first
    let rest ← readRows read (first + 1) count
    return value :: rest

/-- As many values are read as rows are asked for. -/
theorem length_readRows {read : Int → Outcome Value} {first : Int} {count : Nat}
    {values : List Value} (done : readRows read first count = .ok values) :
    values.length = count := by
  induction count generalizing first values with
  | zero =>
    injection done with equal
    simp [← equal]
  | succ count ih =>
    unfold readRows at done
    cases head : read first with
    | error fault => simp [head, bind, Except.bind] at done
    | ok value =>
      cases tail : readRows read (first + 1) count with
      | error fault => simp [head, tail, bind, Except.bind] at done
      | ok rest =>
        simp only [head, tail, bind, Except.bind, pure, Except.pure, Except.ok.injEq] at done
        simp [← done, ih tail]

/-- The category of a declared type as a fact. -/
def typeFact (declared : NativeType) : Outcome (String × Value) := do
  let text ← Outcome.ofOption .outOfRange declared.text?
  return ("category", .text text)

/-- The elements of a slice of a child vector, which has to be a leaf. -/
def elements (policy : TextPolicy) (container : String) (child : ColumnVector)
    (declared : NativeType) (unified : Option UnifiedType) (slice : Int × Int) :
    Outcome (List Value) :=
  match child with
  | .leaf flags cells =>
    readRows (elementCell policy flags cells declared unified) slice.1 slice.2.toNat
  | other => do
    let fact ← typeFact declared
    .error (.report .unsupportedDataType
      (other.kindName ++ " is not supported for " ++ container ++ " vectors") [fact])

/-- The cell of a list vector at a row that is not null. -/
def listCell (policy : TextPolicy) (flags : RowFlags) (offsets lengths : List Int)
    (child : Option ColumnVector) (declared : NativeType) (unified : Option UnifiedType)
    (row : Int) : Outcome Value :=
  match child with
  | none => .error (.report .illegalArgument "list vector has no child vector"
      [("row", .int row)])
  | some child => do
    let element ← declared.child 0
    let slice ← slice flags offsets lengths row
    return .list (← elements policy "list" child element (unified.bind (·.element?)) slice)

/-- The cell of a map vector at a row that is not null. -/
def mapCell (policy : TextPolicy) (flags : RowFlags) (offsets lengths : List Int)
    (keys values : Option ColumnVector) (declared : NativeType) (unified : Option UnifiedType)
    (row : Int) : Outcome Value :=
  match keys, values with
  | some (.leaf keyFlags keyCells), some (.leaf valueFlags valueCells) => do
    let slice ← slice flags offsets lengths row
    let keyType ← declared.child 0
    let keyList ← elements policy "map" (.leaf keyFlags keyCells) keyType
      (unified.bind (·.key?)) slice
    let valueType ← declared.child 1
    let valueList ← elements policy "map" (.leaf valueFlags valueCells) valueType
      (unified.bind (·.value?)) slice
    return .map (Value.collectEntries (keyList.zip valueList))
  | _, _ => do
    let fact ← typeFact declared
    .error (.report .unsupportedDataType "unsupported map key or value type"
      [("key_kind", .text (ColumnVector.childKindName keys)),
       ("value_kind", .text (ColumnVector.childKindName values)), fact])

/-- The branch that the tag of a row of a union designates, as a natural. -/
def branchOf (tag : Int) (declared branches : Nat) (row : Int) : Outcome Nat :=
  if tag < 0 ∨ (declared : Int) ≤ tag then
    .error (.report .illegalArgument "union tag value out of range for union types"
      [("tag", .int tag), ("branches", .int declared), ("row", .int row)])
  else if (branches : Int) ≤ tag then
    .error (.report .illegalArgument "union tag value out of range for union column vectors"
      [("tag", .int tag), ("vectors", .int branches), ("row", .int row)])
  else .ok tag.toNat

namespace ColumnVector

/-- Reports a composite vector whose declared type has another shape. -/
def checkShape (vector : ColumnVector) (declared : NativeType) (row : Int) : Outcome Unit :=
  match vector.category? with
  | none => .ok ()
  | some expected =>
    if declared.category = expected then .ok ()
    else .error (.report .illegalArgument "column vector does not match its type"
      [("vector_kind", .text vector.kindName), ("category", .text declared.category.name),
       ("row", .int row)])

mutual

/-- The cell of a vector at a row, given its declared type and the type of its column. -/
def cell (policy : TextPolicy) (vector : ColumnVector) (declared : NativeType)
    (unified : Option UnifiedType) (row : Int) : Outcome Value := do
  if ← vector.flags.nullAt row then return .null
  vector.checkShape declared row
  match vector with
  | leaf flags cells => leafCell policy flags cells declared unified row
  | list flags offsets lengths child =>
    listCell policy flags offsets lengths child declared unified row
  | map flags offsets lengths keys values =>
    mapCell policy flags offsets lengths keys values declared unified row
  | struct _ fields =>
    if declared.children.length < fields.length then
      .error (.report .illegalArgument "struct vector has more fields than its type"
        [("vectors", .int fields.length), ("fields", .int declared.children.length),
         ("row", .int row)])
    else
      let types := (unified.map (·.fieldTypes)).getD []
      return .row (← fieldCells policy fields declared.children types row) none
  | union flags tags branches offsets => do
    let tag ← Outcome.ofOption .outOfRange (Position.get? tags (flags.index row))
    let place ← branchOf tag declared.children.length branches.length row
    let branch ← declared.child place
    let target ← branchRow flags offsets row
    return .union tag branch (← branchCell policy branches place branch target)
  | untyped _ => .error (.report .illegalArgument "unsupported ORC column vector type"
      [("vector_kind", .text "None"), ("row", .int row)])

/-- The cells of the fields of a struct at one row. -/
def fieldCells (policy : TextPolicy) (fields : List ColumnVector) (declared : List NativeType)
    (types : List UnifiedType) (row : Int) : Outcome (List Value) :=
  match fields, declared with
  | [], _ => .ok []
  | _ :: _, [] => .error (.broken .outOfRange)
  | field :: fields, type :: declared => do
    let value ← field.cell policy type types.head? row
    let values ← fieldCells policy fields declared types.tail row
    return value :: values

/-- The cell of a branch of a union, the branch given by its place. -/
def branchCell (policy : TextPolicy) (branches : List ColumnVector) (place : Nat)
    (declared : NativeType) (row : Int) : Outcome Value :=
  match branches, place with
  | [], _ => .error (.broken .outOfRange)
  | branch :: _, 0 => branch.cell policy declared none row
  | _ :: branches, place + 1 => branchCell policy branches place declared row

end

end ColumnVector

end OrcRows
