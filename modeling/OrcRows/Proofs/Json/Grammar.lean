import OrcRows.Text.CharClass

/-!
# The grammar of JSON texts

A JSON text stands for a tree of nulls, truth values, numbers, strings, arrays and objects, with
space around every part. The grammar knows no number but decimal numerals: there is no text for what
is not finite. A string is a sequence of 16-bit code units, each of them from an escape, or from a
character that stands for itself.
-/

namespace OrcRows

/-- What a JSON text stands for: numbers by their numerals, strings by their code units, and members
in order. -/
inductive Json where
  | null
  | bool (value : Bool)
  | number (numeral : String)
  | string (units : List Nat)
  | array (elements : List Json)
  | object (members : List (List Nat × Json))

namespace Json

section Numerals

/-- At least one digit. -/
def IsDigits (text : List Char) : Prop := text ≠ [] ∧ ∀ c ∈ text, c.isDigit = true

/-- The whole part of a numeral: digits, the first of them not zero unless it is the only one. -/
inductive IsWhole : List Char → Prop
  | zero : IsWhole ['0']
  | positive {first : Char} {rest : List Char} (leading : first ≠ '0')
      (digits : ∀ c ∈ first :: rest, c.isDigit = true) : IsWhole (first :: rest)

/-- The places of a numeral: digits behind a point, or nothing. -/
inductive IsFraction : List Char → Prop
  | none : IsFraction []
  | some {digits : List Char} (digit : IsDigits digits) : IsFraction ('.' :: digits)

/-- The exponent of a numeral: digits behind a mark and perhaps a sign, or nothing. -/
inductive IsExponent : List Char → Prop
  | none : IsExponent []
  | some {mark : Char} {sign digits : List Char} (marked : mark ∈ ['e', 'E'])
      (signed : sign ∈ [[], ['+'], ['-']]) (digit : IsDigits digits) :
      IsExponent (mark :: (sign ++ digits))

/-- A numeral has a whole part, perhaps behind a minus sign, and perhaps places and an exponent. -/
inductive IsNumeral : List Char → Prop
  | mk {sign whole fraction exponent : List Char} (signed : sign ∈ [[], ['-']])
      (wholes : IsWhole whole) (places : IsFraction fraction) (power : IsExponent exponent) :
      IsNumeral (sign ++ whole ++ fraction ++ exponent)

end Numerals

section Strings

/-- The code units of a character: its code, or a pair of surrogates for a code that is too large. -/
def unitsOf (c : Char) : List Nat :=
  let code := c.toNat
  if code < 0x10000 then [code]
  else [0xd800 + (code - 0x10000) / 0x400, 0xdc00 + (code - 0x10000) % 0x400]

/-- The code units of a text. -/
def units (text : String) : List Nat := text.toList.flatMap unitsOf

/-- The letters of escapes with the units they stand for. -/
def letters : List (Char × Nat) :=
  [('"', 0x22), ('\\', 0x5c), ('/', 0x2f), ('b', 0x08), ('f', 0x0c), ('n', 0x0a), ('r', 0x0d),
    ('t', 0x09)]

/-- One character inside quotes: it stands for itself unless it is a quote, a backslash or a control
character, or it is escaped by a letter or by the four hexadecimal digits of a unit. -/
inductive IsItem : List Char → List Nat → Prop
  | plain {c : Char} (visible : 0x20 ≤ c.toNat) (noQuote : c ≠ '"') (noEscape : c ≠ '\\') :
      IsItem [c] (unitsOf c)
  | letter {c : Char} {unit : Nat} (listed : (c, unit) ∈ letters) : IsItem ['\\', c] [unit]
  | unit {a b c d : Char} {w x y z : Nat} (first : CharClass.hexValue? a = some w)
      (second : CharClass.hexValue? b = some x) (third : CharClass.hexValue? c = some y)
      (fourth : CharClass.hexValue? d = some z) :
      IsItem ['\\', 'u', a, b, c, d] [w * 0x1000 + x * 0x100 + y * 0x10 + z]

/-- What stands between quotes. -/
inductive IsContents : List Char → List Nat → Prop
  | nil : IsContents [] []
  | cons {item text : List Char} {units later : List Nat} (here : IsItem item units)
      (rest : IsContents text later) : IsContents (item ++ text) (units ++ later)

/-- A string between its quotes. -/
inductive IsString : List Char → List Nat → Prop
  | mk {text : List Char} {units : List Nat} (contents : IsContents text units) :
      IsString ('"' :: (text ++ ['"'])) units

end Strings

/-- Space that means nothing. -/
def IsSpace (text : List Char) : Prop := ∀ c ∈ text, c ∈ [' ', '\t', '\n', '\r']

mutual

/-- A text writes a tree, without space around it. -/
inductive Writes : Json → List Char → Prop
  | null : Writes null ['n', 'u', 'l', 'l']
  | true : Writes (bool true) ['t', 'r', 'u', 'e']
  | false : Writes (bool false) ['f', 'a', 'l', 's', 'e']
  | number {text : List Char} (numeral : IsNumeral text) : Writes (number (.ofList text)) text
  | string {text : List Char} {units : List Nat} (quoted : IsString text units) :
      Writes (string units) text
  | emptyArray {space : List Char} (spaced : IsSpace space) :
      Writes (array []) ('[' :: (space ++ [']']))
  | array {elements : List Json} {text : List Char} (all : WritesElements elements text) :
      Writes (array elements) ('[' :: (text ++ [']']))
  | emptyObject {space : List Char} (spaced : IsSpace space) :
      Writes (object []) ('\x7b' :: (space ++ ['\x7d']))
  | object {members : List (List Nat × Json)} {text : List Char}
      (all : WritesMembers members text) : Writes (object members) ('\x7b' :: (text ++ ['\x7d']))

/-- A text writes a tree, with space around it. -/
inductive WritesSpaced : Json → List Char → Prop
  | mk {tree : Json} {before text after : List Char} (front : IsSpace before)
      (written : Writes tree text) (back : IsSpace after) :
      WritesSpaced tree (before ++ text ++ after)

/-- A text writes elements of an array, with commas between them. -/
inductive WritesElements : List Json → List Char → Prop
  | last {tree : Json} {text : List Char} (written : WritesSpaced tree text) :
      WritesElements [tree] text
  | cons {tree : Json} {rest : List Json} {text more : List Char}
      (written : WritesSpaced tree text) (later : WritesElements rest more) :
      WritesElements (tree :: rest) (text ++ ',' :: more)

/-- A text writes members of an object, with commas between them. -/
inductive WritesMembers : List (List Nat × Json) → List Char → Prop
  | last {units : List Nat} {tree : Json} {text : List Char}
      (written : WritesMember units tree text) : WritesMembers [(units, tree)] text
  | cons {units : List Nat} {tree : Json} {rest : List (List Nat × Json)} {text more : List Char}
      (written : WritesMember units tree text) (later : WritesMembers rest more) :
      WritesMembers ((units, tree) :: rest) (text ++ ',' :: more)

/-- A text writes a member of an object: its name, a colon and its tree. -/
inductive WritesMember : List Nat → Json → List Char → Prop
  | mk {units : List Nat} {tree : Json} {before name after text : List Char}
      (front : IsSpace before) (named : IsString name units) (back : IsSpace after)
      (written : WritesSpaced tree text) :
      WritesMember units tree (before ++ name ++ after ++ ':' :: text)

end

/-- A text is a JSON text that stands for a tree. -/
def IsText (text : String) (tree : Json) : Prop := WritesSpaced tree text.toList

end Json

end OrcRows
