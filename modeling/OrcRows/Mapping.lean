import OrcRows.Unified

/-!
# From declared types to types of rows

Every category of leaf has a type of its own. A caller may ask for other types; a request is granted
leaf by leaf where the leaf's own type converts to it, and never changes the structure. Elements of
arrays are restricted to a few leaf types, and unions have no type at all.
-/

namespace OrcRows

/-- The type of a leaf category that has one in all circumstances. -/
def Category.leafTag? : Category → Option TypeTag
  | boolean => some .boolean
  | tinyint => some .tinyint
  | smallint => some .smallint
  | int => some .int
  | bigint => some .bigint
  | float => some .float
  | double => some .double
  | string | varchar | char => some .string
  | binary => some .bytes
  | date => some .date
  | timestamp | decimal | list | map | struct | union => none

namespace NativeType

/-- The array of an element type, if arrays may have such elements. -/
def arrayOf (declared : NativeType) (element : UnifiedType) : Outcome UnifiedType :=
  if element.tag.isElementTag then .ok (.array element)
  else do
    let category ← Outcome.ofOption .outOfRange declared.text?
    .error (.report .unsupportedDataType "array element type not supported"
      [("category", .text category), ("element", .text element.text)])

mutual

/-- The type under which a declared type is read, given the type asked for. -/
def unify (declared : NativeType) (target : Option UnifiedType) : Outcome UnifiedType :=
  match declared with
  | node category children fieldNames precision scale =>
    match category.leafTag? with
    | some tag => (UnifiedType.basic tag).finalType target
    | none =>
      match category, children with
      | .timestamp, _ =>
        if target.map (·.tag) = some .time then .ok (.basic .time)
        else (UnifiedType.basic .timestamp).finalType target
      | .decimal, _ => (UnifiedType.decimal precision scale).finalType target
      | .list, element :: _ => do
        let type ← element.unify (target.bind (·.element?))
        arrayOf declared type
      | .map, key :: value :: _ => do
        let keyType ← key.unify (target.bind (·.key?))
        let valueType ← value.unify (target.bind (·.value?))
        return .map keyType valueType
      | .map, [key] => do
        discard (key.unify (target.bind (·.key?)))
        .error (.broken .outOfRange)
      | .struct, fields => do
        let types ← unifyAll fields ((target.map (·.fieldTypes)).getD [])
        let schema ← Schema.of fieldNames types
        return schema.toType
      | .union, _ => .error (.report .unsupportedDataType "ORC type not supported"
          [("category", .text category.name)])
      | _, _ => .error (.broken .outOfRange)

/-- The types under which declared types are read, each given the type asked for at its place. -/
def unifyAll : List NativeType → List UnifiedType → Outcome (List UnifiedType)
  | [], _ => .ok []
  | declared :: rest, targets => do
    let type ← declared.unify targets.head?
    let types ← unifyAll rest targets.tail
    return type :: types

end

/-- The name and the declared type of the first column of a name. -/
def column? (file : NativeType) (name : String) : Option (Outcome NativeType) :=
  (file.fieldNames.idxOf? name).map fun place => Outcome.ofOption .outOfRange file.children[place]?

/-- The type of a selected column, given the type asked for. -/
def columnType (file : NativeType) (name : String) (target : Option UnifiedType) :
    Outcome UnifiedType :=
  match file.column? name with
  | none => .error (.report .schemaColumnMissing "column does not exist in file schema"
      [("column", .text name), ("available", .text (",".intercalate file.fieldNames))])
  | some declared => do
    match (← declared).unify target with
    | .error (.reported report) =>
      .error (.reported (if report.kind = .unsupportedDataType then
        report.addContext [("column", .text name)] else report))
    | outcome => outcome

/-- The types of selected columns; the type asked for is found by position. -/
def columnTypes (file : NativeType) : List String → List UnifiedType → Outcome (List UnifiedType)
  | [], _ => .ok []
  | name :: rest, targets => do
    let type ← file.columnType name targets.head?
    let types ← file.columnTypes rest targets.tail
    return type :: types

/-- The columns that are read: the selected ones, or all if none are. -/
def selection (file : NativeType) : Option (List String) → List String
  | none => file.fieldNames
  | some [] => file.fieldNames
  | some columns => columns

/-- The schema of the selected columns of a file. Field `i` of the target is asked of column `i` of
the selection. -/
def inferSchema (file : NativeType) (target : Option Schema) (selected : Option (List String)) :
    Outcome Schema := do
  let columns := file.selection selected
  let types ← file.columnTypes columns ((target.map (·.types)).getD [])
  Schema.of columns types

end NativeType

end OrcRows
