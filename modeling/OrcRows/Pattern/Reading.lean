import OrcRows.Pattern.Extent
import OrcRows.Text.CharName

/-!
# Partly read patterns

While a pattern is read from left to right, the groups that are open form a stack; each remembers
the alternatives it has finished and the items of the one it is in. Some faults show only in the
whole pattern: they are noted and count once everything has been read.
-/

namespace OrcRows.Pattern

/-- The flags in force at a place of a written pattern. -/
structure ReadingFlags where
  /-- Case does not matter. -/
  ignoresCase : Bool
  /-- Anchors hold at every line. -/
  multiline : Bool
  /-- A dot stands for a line break too. -/
  dotAll : Bool
  /-- Classes and letters are those of ASCII. -/
  ascii : Bool
  /-- White space and comments do not count. -/
  verbose : Bool
  deriving DecidableEq, Repr

namespace ReadingFlags

/-- The characters that count as one under flags. -/
def casing (flags : ReadingFlags) : Casing :=
  if flags.ignoresCase then (if flags.ascii then .ascii else .full) else .distinct

/-- Sets or clears the flag of a letter; `t` has no effect of its own. -/
def set (value : Bool) (flags : ReadingFlags) : Char → ReadingFlags
  | 'i' => { flags with ignoresCase := value }
  | 'm' => { flags with multiline := value }
  | 's' => { flags with dotAll := value }
  | 'x' => { flags with verbose := value }
  | 'a' => { flags with ascii := true }
  | 'u' => { flags with ascii := false }
  | _ => flags

/-- Sets the flags of some letters and clears those of others. -/
def change (flags : ReadingFlags) (on off : List Char) : ReadingFlags :=
  off.foldl (set false) (on.foldl (set true) flags)

end ReadingFlags

/-- What an item of a pattern admits after it. -/
inductive ItemRole where
  /-- It can be repeated. -/
  | plain
  /-- It is an anchor and cannot be repeated. -/
  | anchored
  /-- It is a repetition and cannot be repeated again. -/
  | repeated
  deriving DecidableEq, Repr

/-- The kind of an open group. -/
inductive GroupKind where
  | plain
  | capture (group : Nat)
  | lookahead (negated : Bool)
  /-- A look behind, with the number of groups opened before it. -/
  | lookbehind (negated : Bool) (before : Nat)
  | atomic
  /-- Two alternatives, of which the first counts if a group has captured something. -/
  | condition (group : Nat)
  deriving DecidableEq, Repr

/-- The alternatives of a group as far as they are read, latest first. -/
structure Alternatives where
  /-- Finished alternatives. -/
  finished : List Pattern
  /-- Items of the alternative that is being read. -/
  items : List (Pattern × ItemRole)

namespace Alternatives

/-- Nothing read. -/
def start : Alternatives := ⟨[], []⟩

/-- One more item. -/
def push (alternatives : Alternatives) (item : Pattern) (role : ItemRole) : Alternatives :=
  ⟨alternatives.finished, (item, role) :: alternatives.items⟩

/-- The alternative that is being read, finished. -/
def finishedItems (alternatives : Alternatives) : Pattern :=
  concat (alternatives.items.reverse.map (·.1))

/-- The next alternative begins. -/
def split (alternatives : Alternatives) : Alternatives :=
  ⟨alternatives.finishedItems :: alternatives.finished, []⟩

/-- All alternatives in order. -/
def all (alternatives : Alternatives) : List Pattern :=
  (alternatives.finishedItems :: alternatives.finished).reverse

/-- The pattern of all alternatives. -/
def toPattern (alternatives : Alternatives) : Pattern :=
  match joined alternatives.all with
  | [] => .empty
  | first :: rest => choice first rest

end Alternatives

/-- A group that encloses the one being read. -/
structure Enclosure where
  /-- The kind of the group inside. -/
  kind : GroupKind
  /-- The flags to return to. -/
  flags : ReadingFlags
  /-- What was read before the group. -/
  before : Alternatives

/-- A partly read pattern. -/
structure Reading where
  /-- The names that call characters. -/
  characters : CharNames
  /-- The flags in force. -/
  flags : ReadingFlags
  /-- What is read of the innermost group. -/
  current : Alternatives
  /-- The groups around it, innermost first. -/
  enclosures : List Enclosure
  /-- The number of capturing groups opened. -/
  groups : Nat
  /-- The groups that are closed, with their extents. -/
  closed : List (Nat × Extent)
  /-- The groups that have names. -/
  names : List (String × Nat)
  /-- Letters of the flags set for the whole pattern. -/
  letters : List Char
  /-- Groups on which conditions depend. -/
  awaited : List Nat
  /-- Something was read that no pattern can have. -/
  flawed : Bool

namespace Reading

/-- Nothing read. -/
def start (characters : CharNames) : Reading :=
  ⟨characters, ⟨false, false, false, false, false⟩, .start, [], 0, [], [], [], [], false⟩

/-- Whether classes of ASCII and of all scripts are asked for at once. -/
def isContradictory (reading : Reading) : Bool :=
  reading.letters.contains 'a' && reading.letters.contains 'u'

/-- The reading with one more item. -/
def push (reading : Reading) (item : Pattern) (role : ItemRole) : Reading :=
  { reading with current := reading.current.push item role }

/-- The reading with one more test of a character. -/
def pushSet (reading : Reading) (items : List SetItem) (negated : Bool) : Reading :=
  reading.push (.one ⟨items, negated, reading.flags.casing⟩) .plain

/-- Opens a group. -/
def openGroup (reading : Reading) (kind : GroupKind) (flags : ReadingFlags) : Reading :=
  { reading with
    flags := flags
    current := .start
    enclosures := ⟨kind, reading.flags, reading.current⟩ :: reading.enclosures }

/-- Opens a capturing group, which may have a name that no other group has. -/
def openCapture (reading : Reading) (name : Option String) : Option Reading :=
  let group := reading.groups + 1
  let opened := reading.openGroup (.capture group) reading.flags
  match name with
  | none => some { opened with groups := group }
  | some name =>
    if reading.names.any (·.1 == name) then none
    else some { opened with groups := group, names := (name, group) :: reading.names }

/-- The number of groups opened before the outermost look behind that is open, if there is one. -/
def groupsBehind? (reading : Reading) : Option Nat :=
  (reading.enclosures.filterMap fun enclosure => match enclosure.kind with
    | .lookbehind _ before => some before
    | _ => none).getLast?

/-- Whether a group can be referred to: it is closed, and a look behind refers to no group inside
it. -/
def canRefer (reading : Reading) (group : Nat) : Bool :=
  reading.closed.any (·.1 == group) && reading.groupsBehind?.all (group ≤ ·)

/-- A reference to a group. -/
def pushReference (reading : Reading) (group : Nat) : Option Reading :=
  if reading.canRefer group then
    some (reading.push (.reference group reading.flags.casing) .plain)
  else none

/-- Opens two alternatives that depend on a group, which may be opened later. -/
def openCondition (reading : Reading) (group : Nat) : Option Reading :=
  if reading.groupsBehind?.isNone || reading.canRefer group then
    let opened := reading.openGroup (.condition group) reading.flags
    some { opened with awaited := group :: reading.awaited }
  else none

/-- Begins another alternative; a condition has no third. -/
def split (reading : Reading) : Option Reading :=
  match reading.enclosures, reading.current.finished with
  | ⟨.condition _, _, _⟩ :: _, _ :: _ => none
  | _, _ => some { reading with current := reading.current.split }

/-- Closes the innermost group. -/
def closeGroup (reading : Reading) : Option Reading :=
  match reading.enclosures with
  | [] => none
  | ⟨kind, flags, before⟩ :: outer =>
    let body := reading.current.toPattern
    let extent := body.extent reading.closed
    let closed : Reading :=
      { reading with flags := flags, current := before, enclosures := outer }
    some (match kind with
      | .plain => closed.push body .plain
      | .capture group =>
        { closed.push (.capture group body) .plain with
          closed := (group, extent) :: reading.closed }
      | .lookahead negated => closed.push (.lookahead negated body) .plain
      | .lookbehind negated _ =>
        match extent.fixed? with
        | some width => closed.push (.lookbehind negated width body) .plain
        | none => { closed.push .empty .plain with flawed := true }
      | .atomic => closed.push (.atomic body) .plain
      | .condition group =>
        match reading.current.all with
        | [present, absent] => closed.push (.conditional group present absent) .plain
        | _ => closed.push (.conditional group body .empty) .plain)

/-- Repeats the last item, which the flag `t` forbids. -/
def repeatLast (reading : Reading) (least : Nat) (most : Option Nat) (greedy atomic : Bool) :
    Option Reading :=
  match reading.current.items with
  | (item, .plain) :: rest =>
    let repeated := repetition least most greedy item
    let pushed := ((if atomic then .atomic repeated else repeated), ItemRole.repeated)
    some { reading with
      current := ⟨reading.current.finished, pushed :: rest⟩
      flawed := reading.flawed || reading.letters.contains 't' }
  | _ => none

/-- The pattern that has been read to its end, with the number of its capturing groups. -/
def finish (reading : Reading) : Except PatternFault (Pattern × Nat) :=
  if !reading.enclosures.isEmpty then .error .unreadable
  else if reading.isContradictory then .error .contradictory
  else if reading.flawed || reading.awaited.any (reading.groups < ·) then .error .unreadable
  else .ok (reading.current.toPattern, reading.groups)

end Reading

end OrcRows.Pattern
