import OrcRows.Value

/-!
# JSON forms of values

The command line shows values as JSON: rows and lists as arrays, maps as arrays of pairs, unions as
objects of a tag and a value, and what JSON has no form for as text. The text of a form keeps to
printable ASCII, on one line or indented.
-/

namespace OrcRows

/-- A value as JSON has it; numbers that are not finite are let through. -/
inductive JsonForm where
  | null
  | bool (value : Bool)
  | int (value : Int)
  | float (value : Binary64)
  | text (value : String)
  | array (elements : List JsonForm)
  /-- Named members in order. -/
  | object (members : List (String × JsonForm))

namespace JsonForm

instance : Inhabited JsonForm := ⟨null⟩

mutual

/-- The form of a value. -/
def ofValue : Value → JsonForm
  | .null => null
  | .bool value => bool value
  | .int value => int value
  | .text value => text value
  | .float value => float value
  | .bytes value => text (Quoted.hexBytes value)
  | .decimal value => text value.text
  | .date value => text value.text
  | .time value => text value.text
  | .timestamp value => text value.text
  | .list elements => array (ofValues elements)
  | .map entries => array (ofEntries entries)
  | .row fields _ => array (ofValues fields)
  | .union tag _ value => object [("tag", int tag), ("value", ofValue value)]

/-- The forms of several values. -/
def ofValues : List Value → List JsonForm
  | [] => []
  | value :: rest => ofValue value :: ofValues rest

/-- The entries of a map as pairs. -/
def ofEntries : List (Value × Value) → List JsonForm
  | [] => []
  | (key, value) :: rest => array [ofValue key, ofValue value] :: ofEntries rest

end

/-- A row under the names of its fields, as far as both reach. -/
def ofRow (names : List String) (fields : List Value) : JsonForm :=
  object (names.zip (ofValues fields))

/-- Numbers are written as elsewhere, but the words for what is not finite are longer. -/
def floatLayout : FloatLayout := ⟨-4, 16, 2, "NaN", "Infinity"⟩

/-- The escape of a 16-bit code unit. -/
def escapeUnit (code : Nat) : List Char := '\\' :: 'u' :: Quoted.hex 4 code

/-- The escape of a character: its code unit, or the pair of units of a character beyond them. -/
def escape (c : Char) : List Char :=
  let code := c.toNat
  if code < 0x10000 then escapeUnit code
  else
    let offset := code - 0x10000
    escapeUnit (0xD800 + offset / 0x400) ++ escapeUnit (0xDC00 + offset % 0x400)

/-- The characters that have an escape of a single letter. -/
def letterEscapes : List (Char × Char) :=
  [('"', '"'), ('\\', '\\'), ('\n', 'n'), ('\r', 'r'), ('\t', 't'), ('\x08', 'b'), ('\x0c', 'f')]

/-- One character inside quotes. -/
def encodeChar (c : Char) : List Char :=
  match letterEscapes.lookup c with
  | some letter => ['\\', letter]
  | none => if Quoted.isPlainByte c then [c] else escape c

/-- Text between quotes. -/
def quote (contents : String) : String :=
  String.ofList ('"' :: contents.toList.flatMap encodeChar ++ ['"'])

mutual

/-- The text of a form on one line. -/
def compact : JsonForm → String
  | null => "null"
  | bool value => if value then "true" else "false"
  | int value => toString value
  | float value => value.textIn floatLayout
  | text value => quote value
  | array elements => "[" ++ ", ".intercalate (compactAll elements) ++ "]"
  | object members => "\x7b" ++ ", ".intercalate (compactMembers members) ++ "\x7d"

/-- The texts of several forms. -/
def compactAll : List JsonForm → List String
  | [] => []
  | form :: rest => compact form :: compactAll rest

/-- The texts of members. -/
def compactMembers : List (String × JsonForm) → List String
  | [] => []
  | (name, form) :: rest => (quote name ++ ": " ++ compact form) :: compactMembers rest

end

/-- A new line, indented by two spaces for each level. -/
def newLine (depth : Nat) : String := String.ofList ('\n' :: List.replicate (2 * depth) ' ')

/-- Texts between brackets, each on a line of its own; without texts the brackets stand alone. -/
def block (depth : Nat) (opening closing : String) (texts : List String) : String :=
  if texts.isEmpty then opening ++ closing
  else opening ++ newLine (depth + 1) ++ ("," ++ newLine (depth + 1)).intercalate texts ++
    newLine depth ++ closing

mutual

/-- The text of a form with every element and member on a line of its own. -/
def indented (depth : Nat) : JsonForm → String
  | array elements => block depth "[" "]" (indentedAll (depth + 1) elements)
  | object members => block depth "\x7b" "\x7d" (indentedMembers (depth + 1) members)
  | form => form.compact

/-- The indented texts of several forms. -/
def indentedAll (depth : Nat) : List JsonForm → List String
  | [] => []
  | form :: rest => indented depth form :: indentedAll depth rest

/-- The indented texts of members. -/
def indentedMembers (depth : Nat) : List (String × JsonForm) → List String
  | [] => []
  | (name, form) :: rest =>
    (quote name ++ ": " ++ indented depth form) :: indentedMembers depth rest

end

/-- Several values have as many forms. -/
@[simp] theorem length_ofValues (values : List Value) :
    (ofValues values).length = values.length := by
  induction values with
  | nil => simp [ofValues]
  | cons value rest ih => simp [ofValues, ih]

end JsonForm

end OrcRows
