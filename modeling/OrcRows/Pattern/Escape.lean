import OrcRows.Pattern.Basic
import OrcRows.Text.CharName

/-!
# Escapes and sets in written patterns

A backslash gives the character behind it another meaning: a character by its code, a class, an
anchor, or a reference to a group. In the brackets of a set there are neither anchors nor
references. Every reader returns what it has read and the text behind it, and nothing if the text
does not begin as it should.
-/

namespace OrcRows.Pattern

/-- What an escape stands for. -/
inductive Escape where
  | code (code : Nat)
  | named (kind : CharKind) (negated : Bool)
  | anchor (anchor : Bool → Anchor)
  | group (group : Nat)

/-- The code point written by exactly `count` hexadecimal digits. -/
def hexCode? (count : Nat) (text : List Char) : Option (Escape × List Char) := do
  let digits ← (text.take count).mapM CharClass.hexValue?
  let code := digits.foldl (fun value digit => 16 * value + digit) 0
  if digits.length = count ∧ code < 0x110000 then some (.code code, text.drop count) else none

/-- Whether a character is an octal digit. -/
def isOctal (c : Char) : Bool := '0' ≤ c && c ≤ '7'

/-- The number written by octal digits. -/
def octalValue (digits : List Char) : Nat :=
  digits.foldl (fun value c => 8 * value + (c.toNat - '0'.toNat)) 0

/-- The number written by decimal digits. -/
def decimalValue (digits : List Char) : Nat :=
  digits.foldl (fun value c => 10 * value + (c.toNat - '0'.toNat)) 0

/-- The character called by a name in braces. -/
def namedCode? (names : CharNames) (text : List Char) : Option (Escape × List Char) :=
  match text with
  | '\x7b' :: rest =>
    match rest.dropWhile (· ≠ '\x7d'), names (rest.takeWhile (· ≠ '\x7d')) with
    | _ :: behind, some code => some (.code code, behind)
    | _, _ => none
  | _ => none

/-- The escapes that mean the same inside and outside of a set. -/
def plainEscape? (names : CharNames) (c : Char) (rest : List Char) : Option (Escape × List Char) :=
  match c with
  | 'd' => some (.named .digit false, rest)
  | 'D' => some (.named .digit true, rest)
  | 's' => some (.named .space false, rest)
  | 'S' => some (.named .space true, rest)
  | 'w' => some (.named .word false, rest)
  | 'W' => some (.named .word true, rest)
  | 'a' => some (.code 7, rest)
  | 'f' => some (.code 12, rest)
  | 'n' => some (.code 10, rest)
  | 'r' => some (.code 13, rest)
  | 't' => some (.code 9, rest)
  | 'v' => some (.code 11, rest)
  | 'x' => hexCode? 2 rest
  | 'u' => hexCode? 4 rest
  | 'U' => hexCode? 8 rest
  | 'N' => namedCode? names rest
  | c => if c.isAlphanum then none else some (.code c.toNat, rest)

/-- The digits behind an escaped nonzero digit: three octal digits are a character, one or two
decimal digits refer to a group. -/
def digitEscape? (first : Char) (rest : List Char) : Option (Escape × List Char) :=
  match rest with
  | second :: third :: more =>
    if isOctal first ∧ isOctal second ∧ isOctal third then
      let code := octalValue [first, second, third]
      if code ≤ 255 then some (.code code, more) else none
    else if second.isDigit then some (.group (decimalValue [first, second]), third :: more)
    else some (.group (decimalValue [first]), rest)
  | [second] =>
    if second.isDigit then some (.group (decimalValue [first, second]), [])
    else some (.group (decimalValue [first]), rest)
  | [] => some (.group (decimalValue [first]), [])

/-- What an escape outside of a set stands for. -/
def escape? (names : CharNames) (c : Char) (rest : List Char) : Option (Escape × List Char) :=
  match c with
  | 'A' => some (.anchor fun _ => .start, rest)
  | 'Z' => some (.anchor fun _ => .textEnd, rest)
  | 'b' => some (.anchor fun ascii => .wordBoundary ascii false, rest)
  | 'B' => some (.anchor fun ascii => .wordBoundary ascii true, rest)
  | '0' =>
    let digits := (rest.take 2).takeWhile isOctal
    some (.code (octalValue digits), rest.drop digits.length)
  | c => if c.isDigit then digitEscape? c rest else plainEscape? names c rest

/-- What an escape in a set stands for. -/
def setEscape? (names : CharNames) (c : Char) (rest : List Char) : Option (Escape × List Char) :=
  if c = 'b' then some (.code 8, rest)
  else if isOctal c then
    let digits := c :: (rest.take 2).takeWhile isOctal
    if octalValue digits ≤ 255 then
      some (.code (octalValue digits), rest.drop (digits.length - 1))
    else none
  else plainEscape? names c rest

/-- One member of a set, as far as it is no range. -/
def setUnit? (names : CharNames) (ascii : Bool) : List Char → Option (SetItem × List Char)
  | [] => none
  | '\\' :: c :: rest => do
    match ← setEscape? names c rest with
    | (.code code, rest) => some (.range code code, rest)
    | (.named kind negated, rest) => some (.named kind ascii negated, rest)
    | _ => none
  | ['\\'] => none
  | c :: rest => some (.range c.toNat c.toNat, rest)

/-- The members of a set up to its closing bracket, which does not close an empty set. -/
def setItems? (names : CharNames) (ascii : Bool) :
    Nat → List SetItem → List Char → Option (List SetItem × List Char)
  | 0, _, _ => none
  | fuel + 1, items, text =>
    match items, text with
    | _ :: _, ']' :: rest => some (items, rest)
    | _, _ => do
      let (item, rest) ← setUnit? names ascii text
      match rest with
      | '-' :: ']' :: rest => some (.range 45 45 :: item :: items, rest)
      | '-' :: rest =>
        match item, ← setUnit? names ascii rest with
        | .range low _, (.range _ high, rest) =>
          if low ≤ high then setItems? names ascii fuel (.range low high :: items) rest else none
        | _, _ => none
      | rest => setItems? names ascii fuel (item :: items) rest

/-- The digits of the two bounds written in braces, if what follows an opening brace are bounds. A
bound without digits is open; one number is both bounds. -/
def bounds? (text : List Char) : Option ((List Char × List Char) × List Char) :=
  let low := text.takeWhile Char.isDigit
  match text.dropWhile Char.isDigit with
  | '\x7d' :: rest => if low.isEmpty then none else some ((low, low), rest)
  | ',' :: rest =>
    match rest.dropWhile Char.isDigit with
    | '\x7d' :: behind => some ((low, rest.takeWhile Char.isDigit), behind)
    | _ => none
  | _ => none

end OrcRows.Pattern
