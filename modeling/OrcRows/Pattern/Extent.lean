import OrcRows.Pattern.Basic

/-!
# Extents of patterns

The extent of a pattern bounds the number of characters that it can match. A pattern that looks
behind has to know this number beforehand, so its body must have a fixed extent.
-/

namespace OrcRows

/-- How many characters can be matched. -/
structure Extent where
  /-- The least number. -/
  least : Nat
  /-- The greatest number, if there is one. -/
  most : Option Nat
  deriving DecidableEq, Repr

namespace Extent

/-- Exactly so many characters. -/
def exactly (count : Nat) : Extent := ⟨count, some count⟩

/-- One extent behind another. -/
def add (first second : Extent) : Extent :=
  ⟨first.least + second.least, do return (← first.most) + (← second.most)⟩

/-- Either of two extents. -/
def either (first second : Extent) : Extent :=
  ⟨min first.least second.least, do return max (← first.most) (← second.most)⟩

/-- An extent repeated between two numbers of times. -/
def repeated (extent : Extent) (least : Nat) (most : Option Nat) : Extent :=
  ⟨least * extent.least,
    if extent.most = some 0 ∨ most = some 0 then some 0
    else do return (← extent.most) * (← most)⟩

/-- The most characters that can be looked back over. -/
def limit : Nat := 4294967295

/-- The number of characters, if there is only one and it is within the limit. -/
def fixed? (extent : Extent) : Option Nat :=
  if extent.most = some extent.least ∧ extent.least ≤ limit then some extent.least else none

end Extent

/-- The extent of a pattern, given those of the groups it refers to. -/
def Pattern.extent (groups : List (Nat × Extent)) : Pattern → Extent
  | empty | anchor _ | lookahead _ _ | lookbehind _ _ _ => .exactly 0
  | one _ => .exactly 1
  | sequence first second => (first.extent groups).add (second.extent groups)
  | either first second => (first.extent groups).either (second.extent groups)
  | capture _ body | atomic body => body.extent groups
  | reference group _ => (groups.lookup group).getD (.exactly 0)
  | repetition least most _ body => (body.extent groups).repeated least most
  | conditional _ present absent => (present.extent groups).either (absent.extent groups)

end OrcRows
