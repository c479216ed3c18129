import OrcRows.Report

/-!
# Types of emitted rows

Whatever a file declares is read as one of these types. Leaves carry a tag; decimals, arrays, maps
and rows have parts. A schema is a sequence of named fields with distinct names, and a row type in
good standing is a schema seen as a type. One type may stand for another when every value of the
first can be presented as a value of the second.
-/

namespace OrcRows

/-- The tag of a type. -/
inductive TypeTag where
  | boolean | tinyint | smallint | int | bigint | float | double | string | bytes | date | time
  | timestamp | decimal | array | map | row
  deriving DecidableEq, Repr

namespace TypeTag

/-- The name of a tag. -/
def name : TypeTag → String
  | boolean => "BOOLEAN"
  | tinyint => "TINYINT"
  | smallint => "SMALLINT"
  | int => "INT"
  | bigint => "BIGINT"
  | float => "FLOAT"
  | double => "DOUBLE"
  | string => "STRING"
  | bytes => "BYTES"
  | date => "DATE"
  | time => "TIME"
  | timestamp => "TIMESTAMP"
  | decimal => "DECIMAL"
  | array => "ARRAY"
  | map => "MAP"
  | row => "ROW"

/-- All tags. -/
def all : List TypeTag :=
  [boolean, tinyint, smallint, int, bigint, float, double, string, bytes, date, time, timestamp,
   decimal, array, map, row]

/-- The tag of a name. -/
def ofName? (name : String) : Option TypeTag := all.find? fun tag => tag.name = name

/-- A tag is found again under its name. -/
theorem ofName?_name (tag : TypeTag) : ofName? tag.name = some tag := by
  cases tag <;> decide +kernel

/-- The place of an integer tag among the widths, narrowest first. -/
def integerRank? : TypeTag → Option Nat
  | tinyint => some 0
  | smallint => some 1
  | int => some 2
  | bigint => some 3
  | _ => none

/-- Whether every value of the first tag has a presentation under the second, wider one: integers
widen to wider integers and to floating-point numbers, those to the wider format, and dates to
timestamps. -/
def widens (source target : TypeTag) : Bool :=
  match source, target with
  | float, double => true
  | date, timestamp => true
  | _, float | _, double => source.integerRank?.isSome
  | _, _ =>
    match source.integerRank?, target.integerRank? with
    | some narrow, some wide => decide (narrow < wide)
    | _, _ => false

/-- Whether an array may have elements of this tag. -/
def isElementTag : TypeTag → Bool
  | string | boolean | tinyint | smallint | int | bigint | float | double => true
  | _ => false

end TypeTag

/-- The type of a value in an emitted row. -/
inductive UnifiedType where
  /-- A type without parts. -/
  | basic (tag : TypeTag)
  /-- A decimal type; a precision or scale may be missing. -/
  | decimal (precision scale : Option Int)
  | array (element : UnifiedType)
  | map (key value : UnifiedType)
  /-- Named fields in order. -/
  | row (fields : List (String × UnifiedType))

namespace UnifiedType

/-- The tag of a type. -/
def tag : UnifiedType → TypeTag
  | basic tag => tag
  | decimal _ _ => .decimal
  | array _ => .array
  | map _ _ => .map
  | row _ => .row

/-- The type of the elements, if this is an array. -/
def element? : UnifiedType → Option UnifiedType
  | array element => some element
  | _ => none

/-- The type of the keys, if this is a map. -/
def key? : UnifiedType → Option UnifiedType
  | map key _ => some key
  | _ => none

/-- The type of the values, if this is a map. -/
def value? : UnifiedType → Option UnifiedType
  | map _ value => some value
  | _ => none

/-- The types of the fields, if this is a row; none otherwise. -/
def fieldTypes : UnifiedType → List UnifiedType
  | row fields => fields.map (·.2)
  | _ => []

/-- Whether a type is text. -/
def isText (type : UnifiedType) : Bool := type.tag == .string

mutual

/-- The text of a type. -/
def text : UnifiedType → String
  | basic tag => tag.name
  | decimal precision scale =>
    "DECIMAL(" ++ NativeType.numberText precision ++ ", " ++ NativeType.numberText scale ++ ")"
  | array element => "ARRAY<" ++ element.text ++ ">"
  | map key value => "MAP<" ++ key.text ++ ", " ++ value.text ++ ">"
  | row fields => "ROW<" ++ ", ".intercalate (fieldTexts fields) ++ ">"

/-- The texts of fields, each a name and a type. -/
def fieldTexts : List (String × UnifiedType) → List String
  | [] => []
  | (name, type) :: rest => (name ++ ": " ++ type.text) :: fieldTexts rest

end

mutual

/-- Equality of types is decidable. -/
def decEq : (left right : UnifiedType) → Decidable (left = right)
  | basic a, basic b => if same : a = b then isTrue (by rw [same]) else isFalse (by simp [same])
  | decimal p s, decimal p' s' =>
    if same : p = p' ∧ s = s' then isTrue (by rw [same.1, same.2])
    else isFalse (by simpa using same)
  | array a, array b =>
    match decEq a b with
    | isTrue same => isTrue (by rw [same])
    | isFalse differ => isFalse (by simp [differ])
  | map k v, map k' v' =>
    match decEq k k', decEq v v' with
    | isTrue key, isTrue value => isTrue (by rw [key, value])
    | isFalse differ, _ => isFalse (by simp [differ])
    | _, isFalse differ => isFalse (by simp [differ])
  | row a, row b =>
    match decEqFields a b with
    | isTrue same => isTrue (by rw [same])
    | isFalse differ => isFalse (by simp [differ])
  | basic _, decimal _ _ | basic _, array _ | basic _, map _ _ | basic _, row _
  | decimal _ _, basic _ | decimal _ _, array _ | decimal _ _, map _ _ | decimal _ _, row _
  | array _, basic _ | array _, decimal _ _ | array _, map _ _ | array _, row _
  | map _ _, basic _ | map _ _, decimal _ _ | map _ _, array _ | map _ _, row _
  | row _, basic _ | row _, decimal _ _ | row _, array _ | row _, map _ _ => isFalse nofun

/-- Equality of sequences of fields is decidable. -/
def decEqFields : (left right : List (String × UnifiedType)) → Decidable (left = right)
  | [], [] => isTrue rfl
  | [], _ :: _ => isFalse nofun
  | _ :: _, [] => isFalse nofun
  | (a, t) :: as, (b, u) :: bs =>
    if name : a = b then
      match decEq t u, decEqFields as bs with
      | isTrue type, isTrue rest => isTrue (by rw [name, type, rest])
      | isFalse differ, _ => isFalse (by simp [differ])
      | _, isFalse differ => isFalse (by simp [differ])
    else isFalse (by simp [name])

end

instance : DecidableEq UnifiedType := decEq

instance : Inhabited UnifiedType := ⟨basic .string⟩

/-- Whether a decimal type holds every value of another: neither the scale nor the number of
integer digits shrinks. Comparing a missing number is a breakdown. -/
def decimalWidens (precision scale precision' scale' : Option Int) : Outcome Bool :=
  match scale, scale' with
  | some s, some s' =>
    if s ≤ s' then
      match precision, precision' with
      | some p, some p' => .ok (decide (p - s ≤ p' - s'))
      | _, _ => .error (.broken .illTyped)
    else .ok false
  | _, _ => .error (.broken .illTyped)

mutual

/-- Whether a value of the first type may be presented as the second: any type as text, numbers
under wider ones, and composites when their parts may. -/
def canConvert (source target : UnifiedType) : Outcome Bool :=
  if source = target ∨ target.tag = .string then .ok true
  else
    match source, target with
    | basic a, basic b => .ok (a.widens b)
    | decimal p s, decimal p' s' => decimalWidens p s p' s'
    | array a, array b => canConvert a b
    | map k v, map k' v' => do
      if ← canConvert k k' then canConvert v v' else return false
    | row as, row bs => if as.length = bs.length then canConvertFields as bs else .ok false
    | _, _ => .ok false

/-- Whether every field may be presented as the field at its place. -/
def canConvertFields : List (String × UnifiedType) → List (String × UnifiedType) → Outcome Bool
  | (_, t) :: as, (_, u) :: bs => do
    if ← canConvert t u then canConvertFields as bs else return false
  | _, _ => .ok true

end

/-- The type a column is given: the wanted one if the declared one converts to it. -/
def finalType (declared : UnifiedType) : Option UnifiedType → Outcome UnifiedType
  | none => .ok declared
  | some wanted => do
    if ← canConvert declared wanted then return wanted else return declared

end UnifiedType

/-- Named fields with distinct names. -/
structure Schema where
  /-- The fields in order. -/
  fields : List (String × UnifiedType)
  /-- No name occurs twice. -/
  distinct : (fields.map (·.1)).Nodup

namespace Schema

/-- The names of a schema. -/
def names (schema : Schema) : List String := schema.fields.map (·.1)

/-- The types of a schema. -/
def types (schema : Schema) : List UnifiedType := schema.fields.map (·.2)

/-- The number of fields. -/
def width (schema : Schema) : Nat := schema.fields.length

/-- A schema as a type. -/
def toType (schema : Schema) : UnifiedType := .row schema.fields

/-- The text of a schema. -/
def text (schema : Schema) : String := schema.toType.text

/-- The fields of a schema with the texts of their types. -/
def describe (schema : Schema) : List (String × String) :=
  schema.fields.map fun field => (field.1, field.2.text)

/-- A list of texts as a value. -/
def nameList (names : List String) : Value := .list (names.map .text)

/-- The schema of names and types: there are as many of either, and no name occurs twice. -/
def of (names : List String) (types : List UnifiedType) : Outcome Schema :=
  if names.length = types.length then
    if distinct : ((names.zip types).map (·.1)).Nodup then .ok ⟨names.zip types, distinct⟩
    else .error (.report .illegalArgument "duplicate field names in row type"
      [("names", nameList names)])
  else .error (.report .illegalArgument "row type needs one type per field name"
    [("names", .int names.length), ("types", .int types.length)])

/-- A schema is made of exactly the names and types given. -/
theorem fields_of {names : List String} {types : List UnifiedType} {schema : Schema}
    (made : of names types = .ok schema) :
    names.length = types.length ∧ schema.fields = names.zip types := by
  unfold of at made
  split at made
  · split at made
    · injection made with equal
      exact ⟨by assumption, by rw [← equal]⟩
    · contradiction
  · contradiction

/-- The schema with a text field for every name of a partition appended. A name that a column of
the file has is refused. -/
def withPartitions (schema : Schema) (partitionNames : List String) : Outcome Schema :=
  match partitionNames.find? schema.names.contains with
  | some name => .error (.report .illegalArgument "partition column collides with a file column"
      [("column", .text name)])
  | none => of (schema.names ++ partitionNames)
      (schema.types ++ partitionNames.map fun _ => .basic .string)

end Schema

end OrcRows
