import OrcRows.Pattern.Basic

/-!
# Matching a text from its beginning

A matcher tries its alternatives in order and hands every place it can reach to what comes after it;
the first way through to the end is the match. A repetition stops after a round that consumed
nothing, so the number of rounds is bounded by the length of the text.
-/

namespace OrcRows

/-- What a group has captured. -/
structure Capture where
  /-- The group. -/
  group : Nat
  /-- The captured text. -/
  text : List Char
  /-- The number of characters before the end of the captured text. -/
  stop : Nat
  deriving DecidableEq, Repr

/-- A place in a text, with what the groups have captured. -/
structure Cursor where
  /-- The characters before the place, nearest first. -/
  before : List Char
  /-- The characters after the place. -/
  after : List Char
  /-- Captures, latest first. -/
  captures : List Capture
  /-- The groups that were entered, each with the number of characters before it, latest first. -/
  entered : List (Nat × Nat)

namespace Cursor

/-- The beginning of a text. -/
def start (text : List Char) : Cursor := ⟨[], text, [], []⟩

/-- What a group has captured. -/
def captured? (cursor : Cursor) (group : Nat) : Option (List Char) :=
  (cursor.captures.find? (·.group == group)).map (·.text)

/-- Whether a group has captured something, and did not begin anew behind it. -/
def holdsCapture (cursor : Cursor) (group : Nat) : Bool :=
  match cursor.captures.find? (·.group == group) with
  | none => false
  | some capture => (cursor.entered.lookup group).all (· ≤ capture.stop)

/-- The cursor behind some characters. -/
def advance (cursor : Cursor) (count : Nat) : Cursor :=
  { cursor with
    before := (cursor.after.take count).reverse ++ cursor.before
    after := cursor.after.drop count }

/-- The cursor in front of some characters. -/
def retreat (cursor : Cursor) (count : Nat) : Cursor :=
  { cursor with
    before := cursor.before.drop count
    after := (cursor.before.take count).reverse ++ cursor.after }

/-- The cursor at the beginning of a group. -/
def enter (cursor : Cursor) (group : Nat) : Cursor :=
  { cursor with entered := (group, cursor.before.length) :: cursor.entered }

/-- The cursor with one more capture, which ends where it stands. -/
def capture (cursor : Cursor) (group : Nat) (text : List Char) : Cursor :=
  { cursor with captures := ⟨group, text, cursor.before.length⟩ :: cursor.captures }

/-- The cursor with what groups have captured on another way from its place. -/
def adopt (cursor reached : Cursor) : Cursor :=
  { cursor with captures := reached.captures, entered := reached.entered }

/-- Whether an anchor holds at a place. -/
def satisfies (cursor : Cursor) : Anchor → Bool
  | .start => cursor.before.isEmpty
  | .lineStart => cursor.before.isEmpty || cursor.before.head? == some '\n'
  | .textEnd => cursor.after.isEmpty
  | .lastLineEnd => cursor.after.isEmpty || cursor.after == ['\n']
  | .lineEnd => cursor.after.isEmpty || cursor.after.head? == some '\n'
  | .wordBoundary ascii negated =>
    let inWord (c : Option Char) : Bool := c.any (CharKind.word.holds ascii)
    !(cursor.before.isEmpty && cursor.after.isEmpty) &&
      ((inWord cursor.before.head? != inWord cursor.after.head?) != negated)

end Cursor

/-- A matcher tries what comes after it at every place it reaches, until that succeeds. -/
abbrev Matcher := Cursor → (Cursor → Option Cursor) → Option Cursor

/-- Rounds of a body. After the least number of rounds, a further round is tried only if the one
before it consumed something. -/
def rounds (body : Matcher) (greedy : Bool) :
    Nat → Nat → Option Nat → Option Nat → Matcher
  | 0, _, _, _, _, _ => none
  | fuel + 1, 0, most, previous, cursor, next =>
    let onward (_ : Unit) : Option Cursor :=
      if most = some 0 ∨ previous = some cursor.after.length then none
      else body cursor fun reached =>
        rounds body greedy fuel 0 (most.map (· - 1)) (some cursor.after.length) reached next
    if greedy then
      match onward () with
      | some found => some found
      | none => next cursor
    else
      match next cursor with
      | some found => some found
      | none => onward ()
  | fuel + 1, least + 1, most, previous, cursor, next =>
    body cursor fun reached =>
      rounds body greedy fuel least (most.map (· - 1)) previous reached next

namespace Pattern

/-- The matcher of a pattern. -/
def matcher : Pattern → Matcher
  | empty, cursor, next => next cursor
  | one set, cursor, next =>
    match cursor.after with
    | c :: _ => if set.holds c then next (cursor.advance 1) else none
    | [] => none
  | anchor condition, cursor, next => if cursor.satisfies condition then next cursor else none
  | sequence first second, cursor, next =>
    first.matcher cursor fun reached => second.matcher reached next
  | either first second, cursor, next =>
    match first.matcher cursor next with
    | some found => some found
    | none => second.matcher cursor next
  | capture group body, cursor, next =>
    body.matcher (cursor.enter group) fun reached =>
      next (reached.capture group
        (cursor.after.take (cursor.after.length - reached.after.length)))
  | reference group casing, cursor, next =>
    match cursor.captured? group with
    | none => none
    | some text =>
      if (text.map casing.fold).isPrefixOf (cursor.after.map casing.fold) then
        next (cursor.advance text.length)
      else none
  | repetition least most greedy body, cursor, next =>
    rounds body.matcher greedy (least + cursor.after.length + 2) least most none cursor next
  | lookahead negated body, cursor, next =>
    match body.matcher cursor some with
    | some reached =>
      if negated then none else next (cursor.adopt reached)
    | none => if negated then next cursor else none
  | lookbehind negated width body, cursor, next =>
    if cursor.before.length < width then
      if negated then next cursor else none
    else match body.matcher (cursor.retreat width) some with
      | some reached =>
        if negated then none else next (cursor.adopt reached)
      | none => if negated then next cursor else none
  | conditional group present absent, cursor, next =>
    if cursor.holdsCapture group then present.matcher cursor next
    else absent.matcher cursor next
  | atomic body, cursor, next => (body.matcher cursor some).bind next

/-- The place that a pattern reaches from the beginning of a text. -/
def match? (pattern : Pattern) (text : List Char) : Option Cursor :=
  pattern.matcher (.start text) some

end Pattern

end OrcRows
