import OrcRows.Text.CharClass

/-!
# Patterns

A pattern describes texts that begin in a certain way and what parts of them are captured. It is
built from tests of single characters and from anchors by sequence, choice and repetition; groups
capture what they match, and later parts may refer back to that or depend on it.
-/

namespace OrcRows

/-- A class of characters with a name. -/
inductive CharKind where
  | digit | space | word
  deriving DecidableEq, Repr

/-- Whether a character belongs to a class, or to its ASCII part. -/
def CharKind.holds (kind : CharKind) (ascii : Bool) (c : Char) : Bool :=
  match kind with
  | digit => if ascii then c.isDigit else CharClass.isDigit c
  | space =>
    if ascii then c == ' ' || (9 ≤ c.toNat && c.toNat ≤ 13) else CharClass.isSpace c
  | word => if ascii then c.isAlphanum || c == '_' else CharClass.isWord c

/-- When two characters count as one. -/
inductive Casing where
  /-- Only if they are equal. -/
  | distinct
  /-- If they are the same letter of the ASCII alphabet, small or capital. -/
  | ascii
  /-- If they are the same letter of any script, small or capital. -/
  | full
  deriving DecidableEq, Repr

namespace Casing

/-- The characters that count as one with a character. -/
def variants (casing : Casing) (c : Char) : List Char :=
  match casing with
  | distinct => [c]
  | ascii => [c.toLower, c.toUpper]
  | full => CharClass.variants c

/-- The form in which a captured text is compared with its repetition. -/
def fold (casing : Casing) (c : Char) : Char :=
  match casing with
  | distinct => c
  | ascii => c.toLower
  | full => CharClass.lower c

/-- The characters that count as one with a character in ranges that leave the basic plane: there
the alphabet is that of all scripts, but only the capital of the folded character is regarded. -/
def farVariants (casing : Casing) (c : Char) : List Char :=
  if casing = distinct then [] else (CharClass.rangeCapital? (casing.fold c)).toList

end Casing

/-- A member of a character set. -/
inductive SetItem where
  /-- The code points between two bounds, both included. -/
  | range (low high : Nat)
  /-- A named class or its complement. -/
  | named (kind : CharKind) (ascii negated : Bool)
  deriving DecidableEq, Repr

/-- Whether a member covers a character, given the characters that count as one with it and those
that do so only in a range that leaves the basic plane. Classes do not regard case. -/
def SetItem.holds (c : Char) (variants far : List Char) : SetItem → Bool
  | range low high =>
    (if low < high ∧ 0xffff < high then far ++ variants else variants).any fun v =>
      decide (low ≤ v.toNat) && decide (v.toNat ≤ high)
  | named kind ascii negated => kind.holds ascii c != negated

/-- A set of characters. -/
structure CharSet where
  /-- What the set is made of. -/
  items : List SetItem
  /-- The complement is meant. -/
  negated : Bool
  /-- Which characters count as one. -/
  casing : Casing
  deriving DecidableEq, Repr

/-- Whether a member is a capital beyond the basic plane. -/
def SetItem.isFarCapital : SetItem → Bool
  | range low high =>
    low == high && 0xffff < low && CharClass.lower (Char.ofNat low) != Char.ofNat low
  | named _ _ _ => false

/-- A set among whose members capitals beyond the basic plane do not count, where letters of all
scripts are the same small or capital. -/
def CharSet.withoutFarCapitals (set : CharSet) : CharSet :=
  if set.casing = .full then { set with items := set.items.filter (!·.isFarCapital) } else set

/-- The set of some members. A capital beyond the basic plane counts if it is the only one. -/
def CharSet.ofMembers (items : List SetItem) (negated : Bool) (casing : Casing) : CharSet :=
  let set : CharSet := ⟨items, negated, casing⟩
  if 1 < items.eraseDups.length then set.withoutFarCapitals else set

/-- Whether a set holds a character. -/
def CharSet.holds (set : CharSet) (c : Char) : Bool :=
  set.items.any (·.holds c (set.casing.variants c) (set.casing.farVariants c)) != set.negated

/-- A condition on a place of a text. -/
inductive Anchor where
  /-- The beginning of the text. -/
  | start
  /-- The beginning of a line. -/
  | lineStart
  /-- The end of the text. -/
  | textEnd
  /-- The end of the text, or a line break that ends it. -/
  | lastLineEnd
  /-- The end of a line. -/
  | lineEnd
  /-- A place between a character of a word and one of none, or the opposite of it. -/
  | wordBoundary (ascii negated : Bool)
  deriving DecidableEq, Repr

/-- A pattern. -/
inductive Pattern where
  /-- Nothing at all. -/
  | empty
  /-- One character of a set. -/
  | one (set : CharSet)
  | anchor (anchor : Anchor)
  | sequence (first second : Pattern)
  /-- The first of two patterns if it leads to a match, else the second. -/
  | either (first second : Pattern)
  /-- A group that captures what it matches. -/
  | capture (group : Nat) (body : Pattern)
  /-- What a group has captured, once more. -/
  | reference (group : Nat) (casing : Casing)
  /-- A number of repetitions, as many as possible or as few. -/
  | repetition (least : Nat) (most : Option Nat) (greedy : Bool) (body : Pattern)
  /-- What follows does match, or does not. -/
  | lookahead (negated : Bool) (body : Pattern)
  /-- What precedes, as many characters as the body can match, does match, or does not. -/
  | lookbehind (negated : Bool) (width : Nat) (body : Pattern)
  /-- One of two patterns, depending on whether a group has captured something. -/
  | conditional (group : Nat) (present absent : Pattern)
  /-- A body whose first way to match is the only one. -/
  | atomic (body : Pattern)
  deriving DecidableEq, Repr

namespace Pattern

/-- Patterns one after the other. -/
def concat : List Pattern → Pattern
  | [] => empty
  | [pattern] => pattern
  | pattern :: rest => sequence pattern (concat rest)

/-- The first pattern that leads to a match. -/
def choice (first : Pattern) : List Pattern → Pattern
  | [] => first
  | second :: rest => either first (choice second rest)

/-- Whether a pattern is one character of a set that is not a complement. -/
def isMember : Pattern → Bool
  | one set => !set.negated
  | _ => false

/-- A pattern in which capitals beyond the basic plane do not count as members of its set. -/
def withoutFarCapitals : Pattern → Pattern
  | one set => one set.withoutFarCapitals
  | pattern => pattern

/-- The alternatives as they are matched: different single characters form one set together. -/
def joined (alternatives : List Pattern) : List Pattern :=
  if alternatives.all isMember ∧ 1 < alternatives.eraseDups.length then
    alternatives.map withoutFarCapitals
  else alternatives

end Pattern

/-- Why a text is no pattern for what it is to be used for. -/
inductive PatternFault where
  /-- It does not read as a pattern. -/
  | unreadable
  /-- It asks for classes of ASCII and of all scripts at once. -/
  | contradictory
  /-- A number of repetitions is beyond the limit. -/
  | countTooLarge
  /-- A number of repetitions has too many digits to be read. -/
  | countTooLong (digits : Nat)
  /-- Its groups are nested too deeply. -/
  | tooDeep
  /-- It has no group to take a value from. -/
  | noGroup
  deriving DecidableEq, Repr

end OrcRows
