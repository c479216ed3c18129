import OrcRows.Text.Quoted

/-!
# Types as a file declares them

A file describes its columns by a tree of nodes. Each node has a category; the children, field
names, precision and scale that go with the category may be missing or inconsistent, because a
description is taken as it comes. `NativeType.WellFormed` says when it is consistent,
`NativeType.text?` prints every description whose printed parts are there, and `NativeType.quoted`
shows any description in full.
-/

namespace OrcRows

/-- The category of a declared type. -/
inductive Category where
  | boolean | tinyint | smallint | int | bigint | float | double | string | varchar | char
  | binary | date | timestamp | decimal | list | map | struct | union
  deriving DecidableEq, Repr

namespace Category

/-- The name of a category. -/
def name : Category → String
  | boolean => "boolean"
  | tinyint => "tinyint"
  | smallint => "smallint"
  | int => "int"
  | bigint => "bigint"
  | float => "float"
  | double => "double"
  | string => "string"
  | varchar => "varchar"
  | char => "char"
  | binary => "binary"
  | date => "date"
  | timestamp => "timestamp"
  | decimal => "decimal"
  | list => "array"
  | map => "map"
  | struct => "struct"
  | union => "uniontype"

/-- The symbol of a category, used where a description is shown in full. -/
def symbol : Category → String
  | boolean => "BOOLEAN"
  | tinyint => "BYTE"
  | smallint => "SHORT"
  | int => "INT"
  | bigint => "LONG"
  | float => "FLOAT"
  | double => "DOUBLE"
  | string => "STRING"
  | varchar => "VARCHAR"
  | char => "CHAR"
  | binary => "BINARY"
  | date => "DATE"
  | timestamp => "TIMESTAMP"
  | decimal => "DECIMAL"
  | list => "LIST"
  | map => "MAP"
  | struct => "STRUCT"
  | union => "UNION"

/-- All categories. -/
def all : List Category :=
  [boolean, tinyint, smallint, int, bigint, float, double, string, varchar, char, binary, date,
   timestamp, decimal, list, map, struct, union]

/-- The category of a name. -/
def ofName? (name : String) : Option Category := all.find? fun category => category.name = name

/-- A category is found again under its name. -/
theorem ofName?_name (category : Category) : ofName? category.name = some category := by
  cases category <;> decide +kernel

end Category

/-- A node of a declared type. -/
inductive NativeType where
  /-- A category with whatever was declared beside it. -/
  | node (category : Category) (children : List NativeType) (fieldNames : List String)
      (precision scale : Option Int)

namespace NativeType

/-- The category of a node. -/
def category : NativeType → Category
  | node category _ _ _ _ => category

/-- The children of a node. -/
def children : NativeType → List NativeType
  | node _ children _ _ _ => children

/-- The field names of a node. -/
def fieldNames : NativeType → List String
  | node _ _ fieldNames _ _ => fieldNames

/-- A type without parts. -/
def primitive (category : Category) : NativeType := node category [] [] none none

/-- A decimal type of a precision and a scale. -/
def decimal (precision scale : Option Int) : NativeType := node .decimal [] [] precision scale

/-- A list type. -/
def list (element : NativeType) : NativeType := node .list [element] [] none none

/-- A map type. -/
def map (key value : NativeType) : NativeType := node .map [key, value] [] none none

/-- A struct type of named fields. -/
def struct (fields : List (String × NativeType)) : NativeType :=
  node .struct (fields.map (·.2)) (fields.map (·.1)) none none

/-- A union type of branches. -/
def union (branches : List NativeType) : NativeType := node .union branches [] none none

/-- A precision or scale; `None` stands for a missing one. -/
def numberText : Option Int → String
  | some value => toString value
  | none => "None"

mutual

/-- The text of a type; `none` if a child is missing where one is printed. -/
def text? : NativeType → Option String
  | node category children fieldNames precision scale =>
    let parts := texts children
    match category with
    | .decimal => some ("decimal(" ++ numberText precision ++ "," ++ numberText scale ++ ")")
    | .list => (parts[0]?.bind id).map fun element => "array<" ++ element ++ ">"
    | .map => do
      let key ← ← parts[0]?
      let value ← ← parts[1]?
      return "map<" ++ key ++ "," ++ value ++ ">"
    | .struct => do
      let fields ← (fieldNames.zip parts).mapM fun (name, part) => part.map (name ++ ":" ++ ·)
      return "struct<" ++ ",".intercalate fields ++ ">"
    | .union => do
      let branches ← parts.mapM id
      return "uniontype<" ++ ",".intercalate branches ++ ">"
    | leaf => some leaf.name

/-- The texts of several types. -/
def texts : List NativeType → List (Option String)
  | [] => []
  | child :: rest => text? child :: texts rest

end

mutual

/-- A description shown in full, whether it is consistent or not. -/
def quoted : NativeType → String
  | node category children fieldNames precision scale =>
    "NativeTypeNode(category=<NativeCategory." ++ category.symbol ++ ": " ++
      Quoted.text category.name ++ ">, children=" ++ Quoted.tuple (quotedAll children) ++
      ", field_names=" ++ Quoted.tuple (fieldNames.map Quoted.text) ++
      ", precision=" ++ numberText precision ++ ", scale=" ++ numberText scale ++ ")"

/-- Several descriptions shown in full. -/
def quotedAll : List NativeType → List String
  | [] => []
  | child :: rest => quoted child :: quotedAll rest

end

mutual

/-- Equality of types is decidable. -/
def decEq : (left right : NativeType) → Decidable (left = right)
  | node c ts ns p s, node c' ts' ns' p' s' =>
    if rest : c = c' ∧ ns = ns' ∧ p = p' ∧ s = s' then
      match decEqAll ts ts' with
      | isTrue same => isTrue (by obtain ⟨rfl, rfl, rfl, rfl⟩ := rest; rw [same])
      | isFalse differ => isFalse fun equal => differ (by injection equal)
    else isFalse fun equal => rest (by injection equal; simp_all)

/-- Equality of lists of types is decidable. -/
def decEqAll : (left right : List NativeType) → Decidable (left = right)
  | [], [] => isTrue rfl
  | [], _ :: _ => isFalse nofun
  | _ :: _, [] => isFalse nofun
  | t :: ts, u :: us =>
    match decEq t u, decEqAll ts us with
    | isTrue head, isTrue tail => isTrue (by rw [head, tail])
    | isFalse head, _ => isFalse fun equal => head (List.cons.inj equal).1
    | _, isFalse tail => isFalse fun equal => tail (List.cons.inj equal).2

end

instance : DecidableEq NativeType := decEq

instance : Inhabited NativeType := ⟨primitive .boolean⟩

mutual

/-- A consistent description: one element under a list, a key and a value under a map, as many
distinct names as children under a struct, and nothing below any other category but a union. -/
def WellFormed : NativeType → Prop
  | node category children fieldNames precision scale =>
    AllWellFormed children ∧
    match category with
    | .decimal => children = [] ∧ precision.isSome ∧ scale.isSome
    | .list => children.length = 1
    | .map => children.length = 2
    | .struct => fieldNames.length = children.length ∧ fieldNames.Nodup
    | .union => True
    | _ => children = []

/-- All descriptions are consistent. -/
def AllWellFormed : List NativeType → Prop
  | [] => True
  | child :: rest => WellFormed child ∧ AllWellFormed rest

end

end NativeType

end OrcRows
