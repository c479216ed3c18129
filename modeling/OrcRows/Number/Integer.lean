import OrcRows.Number.Decimal
import OrcRows.Text.CharClass
import OrcRows.Text.Pieces

/-!
# Integers in text

An integer is written with an optional sign and decimal digits of any script. Single underscores may
stand between digits, and blanks around the whole are ignored.
-/

namespace OrcRows.Integer

/-- The most digits that an integer may have. -/
def digitLimit : Nat := 4300

/-- The digits of a text in which underscores, if any, stand alone between digits. -/
def digitsOf? (text : List Char) : Option (List Char) :=
  let groups := Pieces.cut (· == '_') text
  let shown := groups.flatten
  if groups.all (fun group => !group.isEmpty) ∧ shown.all CharClass.isDigit ∧
      shown.length ≤ digitLimit then some shown
  else none

/-- Space that may stand around an integer: separators of information are none. -/
def isBlank (c : Char) : Bool := CharClass.isSpace c && !(0x1c ≤ c.toNat && c.toNat ≤ 0x1f)

/-- Reads an integer; `none` if the text is malformed or too long. -/
def ofText? (text : String) : Option Int :=
  let signed := Decimal.splitSign (CharClass.trim isBlank text.toList)
  (digitsOf? signed.2).map fun shown =>
    let value : Nat := shown.foldl (fun value c => 10 * value + CharClass.digitValue c) 0
    if signed.1 then -(value : Int) else value

end OrcRows.Integer
