import OrcRows.Number.Shortest
import OrcRows.Options.Problem
import OrcRows.Text.CharName
import OrcRows.Text.Encoding

/-!
# How the values of options are read

Options come as values of any kind. Which of them count as texts, as truth values and as lists,
which encodings have a name and which characters do, is not up to the options: it is laid down in
rules. All rules take a text, a truth value and a list for what they are. The rules that come with
the library also take bytes in UTF-8 for a text, words and numbers for a truth value, and records
for lists.
-/

namespace OrcRows

/-- How the values of options are read. -/
structure OptionRules where
  /-- The encodings of text. -/
  encodings : EncodingRegistry
  /-- The names of characters in patterns. -/
  characters : CharNames
  /-- The text that a value stands for. -/
  text : Value → Except ProblemKind String
  /-- The truth value that a value stands for. -/
  truth : Value → Except ProblemKind Bool
  /-- The members of the list that a value stands for. -/
  members : Value → Except ProblemKind (List Value)
  /-- A text stands for itself. -/
  text_text (value : String) : text (.text value) = .ok value
  /-- A truth value stands for itself. -/
  truth_bool (value : Bool) : truth (.bool value) = .ok value
  /-- A list has its members. -/
  members_list (values : List Value) : members (.list values) = .ok values

namespace OptionRules

/-- The text of well-formed bytes in UTF-8: decoding replaces nothing in them. -/
def wellFormed? (bytes : List UInt8) : Option String :=
  let chars := Utf8.decode bytes
  if Utf8.encode chars = bytes then some (String.ofList chars) else none

/-- The text of a value. -/
def textOf : Value → Except ProblemKind String
  | .text value => .ok value
  | .bytes value =>
    match wellFormed? value with
    | some text => .ok text
    | none => .error .notUnicode
  | _ => .error .notText

/-- The words for the two truth values. -/
def truthWords : List (String × Bool) :=
  [("0", false), ("off", false), ("f", false), ("false", false), ("n", false), ("no", false),
   ("1", true), ("on", true), ("t", true), ("true", true), ("y", true), ("yes", true)]

/-- The truth value of a word in any case. -/
def truthOfWord (word : String) : Except ProblemKind Bool :=
  match truthWords.lookup (String.ofList (word.toList.map Char.toLower)) with
  | some value => .ok value
  | none => .error .unreadableTruth

/-- The truth value of an integer: zero or one. -/
def truthOfInt (value : Int) : Except ProblemKind Bool :=
  if value = 0 then .ok false
  else if value = 1 then .ok true
  else .error .unreadableTruth

/-- The truth value of a number. An integer beyond 64 bits, or a number that is none, stands for
none. -/
def truthOfNumber (value : Binary64) : Except ProblemKind Bool :=
  match value.toRat? with
  | some ratio =>
    if ratio.den = 1 ∧ ratio.num.natAbs < Nat.pow 2 63 then truthOfInt ratio.num
    else .error .notTruth
  | none => .error .notTruth

/-- The truth value of a value: itself, a word for it, or zero or one. -/
def truthOf : Value → Except ProblemKind Bool
  | .bool value => .ok value
  | .int value =>
    if -(Nat.pow 2 63 : Int) ≤ value ∧ value < (Nat.pow 2 63 : Int) then truthOfInt value
    else .error .notTruth
  | .text word => truthOfWord word
  | .bytes word =>
    match wellFormed? word with
    | some text => truthOfWord text
    | none => .error .unreadableTruth
  | .float value => truthOfNumber value
  | .decimal (.finite negative coefficient exponent) =>
    truthOfNumber (Scientific.toBinary64 negative ⟨coefficient, exponent⟩)
  | _ => .error .notTruth

/-- The members of a value. Those of a union are its tag, its type and its value; a type is read as
nothing, as no value at all is. -/
def membersOf : Value → Except ProblemKind (List Value)
  | .list values => .ok values
  | .row fields _ => .ok fields
  | .union tag _ value => .ok [.int tag, .null, value]
  | _ => .error .notList

/-- The rules that come with the library. -/
def standard : OptionRules where
  encodings := .standard
  characters := CharName.code?
  text := textOf
  truth := truthOf
  members := membersOf
  text_text _ := rfl
  truth_bool _ := rfl
  members_list _ := rfl

end OptionRules

end OrcRows
