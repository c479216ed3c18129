import OrcRows.Text.CharClass

/-!
# Quoted text and quoted bytes

Text is quoted with single quotes, or with double quotes if that saves escaping: when it holds a
single quote and no double one. The quote in use, backslashes and everything that cannot be printed
is escaped. Bytes are quoted alike behind the letter `b`, everything outside ASCII escaped.
-/

namespace OrcRows.Quoted

/-- The lower-case hexadecimal digits of a code, with at least `width` of them. -/
def hex (width code : Nat) : List Char :=
  let shown := Nat.toDigits 16 code
  List.replicate (width - shown.length) '0' ++ shown

/-- A numbered escape, in the shortest of its three widths. -/
def escapeCode (code : Nat) : List Char :=
  if code < 0x100 then '\\' :: 'x' :: hex 2 code
  else if code < 0x10000 then '\\' :: 'u' :: hex 4 code
  else '\\' :: 'U' :: hex 8 code

/-- The quote around contents with the given characters. -/
def quoteFor (contents : List Char) : Char :=
  if contents.contains '\'' && !contents.contains '"' then '"' else '\''

/-- One character inside quotes; `plain` tells which characters stand for themselves. -/
def encodeChar (plain : Char → Bool) (quote c : Char) : List Char :=
  if c = '\\' ∨ c = quote then ['\\', c]
  else if c = '\n' then ['\\', 'n']
  else if c = '\r' then ['\\', 'r']
  else if c = '\t' then ['\\', 't']
  else if plain c then [c]
  else escapeCode c.toNat

/-- Contents between quotes. -/
def encode (plain : Char → Bool) (contents : List Char) : List Char :=
  let quote := quoteFor contents
  quote :: contents.flatMap (encodeChar plain quote) ++ [quote]

/-- Quoted text. -/
def text (contents : String) : String :=
  String.ofList (encode CharClass.isPrintable contents.toList)

/-- A byte that stands for itself between quotes: printable ASCII. -/
def isPlainByte (c : Char) : Bool := 0x20 ≤ c.toNat && c.toNat < 0x7f

/-- Quoted bytes. -/
def bytes (contents : List UInt8) : String :=
  "b" ++ String.ofList (encode isPlainByte (contents.map fun byte => Char.ofNat byte.toNat))

/-- Bytes as pairs of lower-case hexadecimal digits. -/
def hexBytes (contents : List UInt8) : String :=
  String.ofList (contents.flatMap fun byte => hex 2 byte.toNat)

/-- The quote in use never stands unescaped between the quotes. -/
theorem encodeChar_ne_quote (plain : Char → Bool) (quote c : Char) :
    encodeChar plain quote c ≠ [quote] := by
  by_cases special : c = '\\' ∨ c = quote
  · simp [encodeChar, special]
  · have other : c ≠ quote := fun equal => special (Or.inr equal)
    simp only [encodeChar, if_neg special]
    repeat' split
    · simp
    · simp
    · simp
    · simpa using other
    · simp only [escapeCode]
      repeat' split
      all_goals simp

/-- Parts in parentheses; a lone part is marked by a comma. -/
def tuple : List String → String
  | [part] => "(" ++ part ++ ",)"
  | parts => "(" ++ ", ".intercalate parts ++ ")"

end OrcRows.Quoted
