import OrcRows.Number.FloatText
import OrcRows.Number.Decimal
import OrcRows.Calendar
import OrcRows.Text.Quoted
import OrcRows.Native

/-!
# Cell values

The value of a cell is not known to have a type until it has been read, so cells share one dynamic
type. Two values are the same when they denote the same thing: numbers compare by value whatever
their kind, maps without regard to order. A map keeps the first position and the first key of
entries with the same key, and their last value.
-/

namespace OrcRows

/-- The value of a cell. -/
inductive Value where
  | null
  | bool (value : Bool)
  | int (value : Int)
  | text (value : String)
  | float (value : Binary64)
  | bytes (value : List UInt8)
  | decimal (value : Decimal)
  | date (value : Date)
  | time (value : TimeOfDay)
  | timestamp (value : Timestamp)
  | list (elements : List Value)
  /-- A map, its entries in order of first occurrence. -/
  | map (entries : List (Value × Value))
  /-- The fields of a record, with the identifier of the table it belongs to. -/
  | row (fields : List Value) (tableId : Option String)
  /-- The active branch of a union, its declared type and its value. -/
  | union (tag : Int) (type : NativeType) (value : Value)

instance : Inhabited Value := ⟨.null⟩

namespace Value

/-- A value with a place on the number line. -/
inductive Magnitude where
  | finite (value : Rat)
  | infinite (negative : Bool)
  deriving DecidableEq

/-- The magnitude of a number; truth values count as zero and one. -/
def magnitude? : Value → Option Magnitude
  | bool value => some (.finite (if value then 1 else 0))
  | int value => some (.finite value)
  | float (.infinite negative) => some (.infinite negative)
  | float value => value.toRat?.map .finite
  | decimal (.infinite negative) => some (.infinite negative)
  | decimal value => value.toRat?.map .finite
  | _ => none

/-- Equality of two numbers; a pair that is not two numbers is unequal. -/
def sameMagnitude (left right : Value) : Bool :=
  match left, right with
  | int a, int b => a == b
  | decimal a, decimal b => a.sameNumber b
  | decimal a, int b => a.sameNumber (.ofInt b)
  | int a, decimal b => b.sameNumber (.ofInt a)
  | _, _ =>
    match left.magnitude?, right.magnitude? with
    | some a, some b => a == b
    | _, _ => false

mutual

/-- Whether two values denote the same thing. -/
def same : Value → Value → Bool
  | null, null => true
  | text a, text b => a == b
  | bytes a, bytes b => a == b
  | date a, date b => a == b
  | time a, time b => a == b
  | timestamp a, timestamp b => a == b
  | list a, list b => sameAll a b
  | map a, map b => a.length == b.length && hasEntries b a
  | row a s, row b t => s == t && sameAll a b
  | union a t v, union b u w => a == b && t == u && same v w
  | a, b => sameMagnitude a b

/-- Whether two sequences agree in length and at every place. -/
def sameAll : List Value → List Value → Bool
  | [], [] => true
  | a :: as, b :: bs => same a b && sameAll as bs
  | _, _ => false

/-- Whether a map holds every one of some entries. -/
def hasEntries (entries : List (Value × Value)) : List (Value × Value) → Bool
  | [] => true
  | (key, value) :: rest =>
    (entries.any fun entry => same key entry.1 && same value entry.2) && hasEntries entries rest

end

/-- Enters a key and a value: a key that is there keeps its place and takes the value. -/
def putEntry (key value : Value) : List (Value × Value) → List (Value × Value)
  | [] => [(key, value)]
  | (present, old) :: rest =>
    if same present key then (present, value) :: rest
    else (present, old) :: putEntry key value rest

/-- The entries of a map from pairs of keys and values in order. -/
def collectEntries (pairs : List (Value × Value)) : List (Value × Value) :=
  pairs.foldl (fun entries pair => putEntry pair.1 pair.2 entries) []

/-- The civil parts of a date, for quoting. -/
def dateParts (date : Date) : List String :=
  let civil := date.civil
  [toString civil.year, toString civil.month, toString civil.day]

/-- The parts of a time of day, for quoting: trailing zero seconds and microseconds are left
out. -/
def timeParts (time : TimeOfDay) : List String :=
  let second := time.seconds % 60
  [toString (time.seconds / 3600), toString (time.seconds / 60 % 60)] ++
    (if second = 0 ∧ time.micro = 0 then []
     else toString second :: (if time.micro = 0 then [] else [toString time.micro]))

/-- Some parts in parentheses behind a name. -/
def call (name : String) (parts : List String) : String :=
  name ++ "(" ++ ", ".intercalate parts ++ ")"

mutual

/-- The quoted form of a value, in which values of different kinds look different. -/
def quoted : Value → String
  | null => "None"
  | bool value => if value then "True" else "False"
  | int value => toString value
  | text value => Quoted.text value
  | float value => value.text
  | bytes value => Quoted.bytes value
  | decimal value => call "Decimal" [Quoted.text value.text]
  | date value => call "datetime.date" (dateParts value)
  | time value => call "datetime.time" (timeParts value)
  | timestamp value => call "datetime.datetime" (dateParts value.date ++ timeParts value.time)
  | list elements => "[" ++ ", ".intercalate (quotedAll elements) ++ "]"
  | map entries => "\x7b" ++ ", ".intercalate (quotedEntries entries) ++ "\x7d"
  | row fields tableId =>
    call "Row" ["fields=[" ++ ", ".intercalate (quotedAll fields) ++ "]",
      "table_id=" ++ (tableId.map Quoted.text).getD "None"]
  | union tag type value =>
    call "UnionValue" ["tag=" ++ toString tag, "type=" ++ type.quoted,
      "value=" ++ quoted value]

/-- The quoted forms of several values. -/
def quotedAll : List Value → List String
  | [] => []
  | value :: rest => quoted value :: quotedAll rest

/-- The quoted forms of the entries of a map. -/
def quotedEntries : List (Value × Value) → List String
  | [] => []
  | (key, value) :: rest => (quoted key ++ ": " ++ quoted value) :: quotedEntries rest

end

mutual

/-- Whether the declared type of every union in a value has a text. -/
def typesHaveText : Value → Bool
  | list elements => allTypesHaveText elements
  | map entries => entryTypesHaveText entries
  | row fields _ => allTypesHaveText fields
  | union _ type value => type.text?.isSome && typesHaveText value
  | _ => true

/-- Whether the types of unions in several values have texts. -/
def allTypesHaveText : List Value → Bool
  | [] => true
  | value :: rest => typesHaveText value && allTypesHaveText rest

/-- Whether the types of unions in the entries of a map have texts. -/
def entryTypesHaveText : List (Value × Value) → Bool
  | [] => true
  | (key, value) :: rest => typesHaveText key && typesHaveText value && entryTypesHaveText rest

end

/-- A new key is entered at the end. -/
theorem putEntry_of_fresh {key value : Value} {entries : List (Value × Value)}
    (fresh : ∀ entry ∈ entries, same entry.1 key = false) :
    putEntry key value entries = entries ++ [(key, value)] := by
  induction entries with
  | nil => rfl
  | cons entry rest ih =>
    have head := fresh entry (by simp)
    simp [putEntry, head, ih fun e member => fresh e (by simp [member])]

/-- Entering a key adds at most one entry. -/
theorem length_putEntry_le (key value : Value) (entries : List (Value × Value)) :
    (putEntry key value entries).length ≤ entries.length + 1 := by
  induction entries with
  | nil => simp [putEntry]
  | cons entry rest ih =>
    rw [putEntry]
    split
    · simp only [List.length_cons]
      omega
    · simp only [List.length_cons]
      omega

end Value

end OrcRows
