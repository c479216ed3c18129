import OrcRows.Number.Integer
import OrcRows.Pattern.Escape
import OrcRows.Pattern.Reading
import OrcRows.Text.Identifier

/-!
# Reading written patterns

A written pattern is read item by item. Every step consumes at least one character, so the length of
the text bounds the number of steps. A text that is no pattern has no reading, and a number of
repetitions beyond a limit, or a group nested too deeply, ends the reading where it stands.
-/

namespace OrcRows.Pattern

/-- A number of repetitions stays below this limit. -/
def countLimit : Nat := 4294967295

/-- Groups can be nested so deeply. -/
def depthLimit : Nat := 490

/-- The number of a group stays below this limit. -/
def groupLimit : Nat := 1073741823

/-- What is left behind a comment; an escaped character does not end it, and a comment to the end of
a line may also end with the text. -/
def skipComment? (stop : Char) : List Char → Option (List Char)
  | '\\' :: _ :: rest => skipComment? stop rest
  | ['\\'] => none
  | c :: rest => if c = stop then some rest else skipComment? stop rest
  | [] => if stop = '\n' then some [] else none

namespace Reading

/-- Repeats the last item; a question mark makes the repetition lazy, a plus sign final. -/
def quantify (reading : Reading) (least : Nat) (most : Option Nat) (rest : List Char) :
    Option (Reading × List Char) :=
  if most.any (· < least) then none
  else match rest with
    | '?' :: rest => (reading.repeatLast least most false false).map (·, rest)
    | '+' :: rest => (reading.repeatLast least most true true).map (·, rest)
    | rest => (reading.repeatLast least most true false).map (·, rest)

/-- A letter of a flag. -/
def isFlag (c : Char) : Bool := "imsxaut".toList.contains c

/-- Reads flags for the rest of the pattern, which stand at its very beginning. -/
def readGlobalFlags (reading : Reading) (on rest : List Char) : Option (Reading × List Char) :=
  let atStart := reading.enclosures.isEmpty && reading.current.finished.isEmpty &&
    reading.current.items.isEmpty
  if atStart ∧ on ≠ [] then
    some ({ reading with
      flags := reading.flags.change on []
      letters := on ++ reading.letters }, rest)
  else none

/-- Reads flags: letters to set, and in front of a group letters to clear behind a minus sign. -/
def readFlags (reading : Reading) (text : List Char) : Option (Reading × List Char) :=
  let on := text.takeWhile isFlag
  if on.contains 'a' ∧ on.contains 'u' then none
  else match text.dropWhile isFlag with
    | ')' :: rest => reading.readGlobalFlags on rest
    | ':' :: rest =>
      if on = [] ∨ on.contains 't' then none
      else some (reading.openGroup .plain (reading.flags.change on []), rest)
    | '-' :: rest =>
      let off := rest.takeWhile isFlag
      match rest.dropWhile isFlag with
      | ':' :: rest =>
        if off = [] ∨ on.contains 't' ∨ off.any (fun c => "aut".toList.contains c || on.contains c)
        then none
        else some (reading.openGroup .plain (reading.flags.change on off), rest)
      | _ => none
    | _ => none

/-- The group that a condition names: one that has the name, or one of a number. -/
def conditionGroup? (reading : Reading) (name : List Char) : Option Nat :=
  if Identifier.isIdentifier name then reading.names.lookup (String.ofList name)
  else do
    let group ← Integer.ofText? (String.ofList name)
    if 0 < group ∧ group.toNat < groupLimit then some group.toNat else none

/-- Reads what follows an opening parenthesis. -/
def readGroup (reading : Reading) : List Char → Option (Reading × List Char)
  | '?' :: ':' :: rest => some (reading.openGroup .plain reading.flags, rest)
  | '?' :: '=' :: rest => some (reading.openGroup (.lookahead false) reading.flags, rest)
  | '?' :: '!' :: rest => some (reading.openGroup (.lookahead true) reading.flags, rest)
  | '?' :: '<' :: '=' :: rest =>
    some (reading.openGroup (.lookbehind false reading.groups) reading.flags, rest)
  | '?' :: '<' :: '!' :: rest =>
    some (reading.openGroup (.lookbehind true reading.groups) reading.flags, rest)
  | '?' :: '>' :: rest => some (reading.openGroup .atomic reading.flags, rest)
  | '?' :: '#' :: rest => (skipComment? ')' rest).map (reading, ·)
  | '?' :: 'P' :: '<' :: rest =>
    let name := rest.takeWhile (· ≠ '>')
    match rest.dropWhile (· ≠ '>') with
    | _ :: rest =>
      if Identifier.isIdentifier name then
        (reading.openCapture (some (String.ofList name))).map (·, rest)
      else none
    | [] => none
  | '?' :: 'P' :: '=' :: rest =>
    let name := rest.takeWhile (· ≠ ')')
    match rest.dropWhile (· ≠ ')'), reading.names.lookup (String.ofList name) with
    | _ :: rest, some group => (reading.pushReference group).map (·, rest)
    | _, _ => none
  | '?' :: '(' :: rest => do
    let group ← reading.conditionGroup? (rest.takeWhile (· ≠ ')'))
    match rest.dropWhile (· ≠ ')') with
    | _ :: rest => (reading.openCondition group).map (·, rest)
    | [] => none
  | '?' :: rest => reading.readFlags rest
  | rest => (reading.openCapture none).map (·, rest)

/-- Reads one escape outside of a set. -/
def readEscape (reading : Reading) : List Char → Option (Reading × List Char)
  | [] => none
  | c :: rest => do
    match ← escape? reading.characters c rest with
    | (.code code, rest) => some (reading.pushSet [.range code code] false, rest)
    | (.named kind negated, rest) =>
      some (reading.pushSet [.named kind reading.flags.ascii negated] false, rest)
    | (.anchor condition, rest) =>
      some (reading.push (.anchor (condition reading.flags.ascii)) .anchored, rest)
    | (.group group, rest) => (reading.pushReference group).map (·, rest)

/-- Reads a set behind its opening bracket. -/
def readSet (reading : Reading) (text : List Char) : Option (Reading × List Char) := do
  let negated := text.head? == some '^'
  let text := if negated then text.drop 1 else text
  let (items, rest) ← setItems? reading.characters reading.flags.ascii (text.length + 1) [] text
  some (reading.push (.one (CharSet.ofMembers items negated reading.flags.casing)) .plain, rest)

/-- Reads one item without bounds in braces, of which the first character is given. -/
def readItem (reading : Reading) (c : Char) (rest : List Char) : Option (Reading × List Char) :=
  match c with
  | '|' => reading.split.map (·, rest)
  | '(' => reading.readGroup rest
  | ')' => reading.closeGroup.map (·, rest)
  | '[' => reading.readSet rest
  | '\\' => reading.readEscape rest
  | '.' => some (reading.pushSet (if reading.flags.dotAll then [] else [.range 10 10]) true, rest)
  | '^' =>
    let condition := if reading.flags.multiline then Anchor.lineStart else .start
    some (reading.push (.anchor condition) .anchored, rest)
  | '$' =>
    let condition := if reading.flags.multiline then Anchor.lineEnd else .lastLineEnd
    some (reading.push (.anchor condition) .anchored, rest)
  | '*' => reading.quantify 0 none rest
  | '+' => reading.quantify 1 none rest
  | '?' => reading.quantify 0 (some 1) rest
  | c => some (reading.pushSet [.range c.toNat c.toNat] false, rest)

/-- What was read, or the fault of a text that is no pattern. -/
def orUnreadable {α : Type} (read : Option α) : Except PatternFault α :=
  match read with
  | some read => .ok read
  | none => .error .unreadable

/-- The number of repetitions that digits write; without digits there is none. -/
def countOf (digits : List Char) : Except PatternFault (Option Nat) :=
  if Integer.digitLimit < digits.length then .error (.countTooLong digits.length)
  else if digits.isEmpty then .ok none
  else if countLimit ≤ decimalValue digits then .error .countTooLarge
  else .ok (some (decimalValue digits))

/-- Repeats the last item between two bounds. A bound beyond a limit is noticed at once, unless an
escape that is cut off follows. -/
def quantifyBetween (reading : Reading) (low high : List Char) (rest : List Char) :
    Except PatternFault (Reading × List Char) :=
  if rest = ['\\'] then .error .unreadable
  else do
    let least ← countOf low
    let most ← countOf high
    orUnreadable (reading.quantify (least.getD 0) most rest)

/-- Reads one item, of which the first character is given. -/
def step (reading : Reading) (c : Char) (rest : List Char) :
    Except PatternFault (Reading × List Char) :=
  if reading.flags.verbose ∧ (c = ' ' ∨ (9 ≤ c.toNat ∧ c.toNat ≤ 13)) then .ok (reading, rest)
  else if reading.flags.verbose ∧ c = '#' then
    (orUnreadable (skipComment? '\n' rest)).map (reading, ·)
  else if c = ')' ∧ reading.enclosures.isEmpty ∧ reading.isContradictory then
    .error .contradictory
  else match c, bounds? rest with
    | '\x7b', some ((low, high), rest) => reading.quantifyBetween low high rest
    | c, _ => orUnreadable (reading.readItem c rest)

/-- Reads items until the text ends. -/
def run : Nat → Reading → List Char → Except PatternFault Reading
  | _, reading, [] => .ok reading
  | 0, _, _ :: _ => .error .unreadable
  | fuel + 1, reading, c :: rest => do
    let (reading, rest) ← reading.step c rest
    if depthLimit < reading.enclosures.length then .error .tooDeep else run fuel reading rest

end Reading

/-- The pattern written by a text in which names call characters, with the number of its capturing
groups. -/
def ofText (characters : CharNames) (text : String) : Except PatternFault (Pattern × Nat) := do
  (← Reading.run text.length (.start characters) text.toList).finish

end OrcRows.Pattern
