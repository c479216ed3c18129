import OrcRows.Journal
import OrcRows.Location.Uri
import OrcRows.Pattern.Match
import OrcRows.Pattern.Parser
import OrcRows.Text.Percent

/-!
# Partition values in paths

A path may name values of columns that its file does not hold. A definition without a pattern finds
`name=value` directories; a definition with one takes the first group of the pattern. Of several
directories the deepest wins, and a definition that finds nothing gives no value and a notice.
-/

namespace OrcRows

/-- A written pattern with at least one group. -/
structure PathPattern where
  /-- The pattern as it was written. -/
  text : String
  /-- What it means. -/
  body : Pattern
  /-- The number of its groups. -/
  groups : Nat
  /-- The text is that of the pattern, by some names of characters. -/
  readable : ∃ characters, Pattern.ofText characters text = .ok (body, groups)
  /-- There is a group to take a value from. -/
  capturing : 0 < groups

/-- The pattern of a text in which names call characters. -/
def PathPattern.ofText (characters : CharNames) (text : String) :
    Except PatternFault PathPattern :=
  match readable : Pattern.ofText characters text with
  | .error fault => .error fault
  | .ok (body, groups) =>
    if capturing : 0 < groups then .ok ⟨text, body, groups, ⟨characters, readable⟩, capturing⟩
    else .error .noGroup

/-- A pattern is that of a text if it has the text and is what the text is read as. -/
theorem PathPattern.ofText_eq_ok_iff {characters : CharNames} {text : String}
    {pattern : PathPattern} :
    ofText characters text = .ok pattern ↔
      pattern.text = text ∧
        Pattern.ofText characters text = .ok (pattern.body, pattern.groups) := by
  rw [ofText]
  split
  next fault failed => simp [failed]
  next body groups done =>
    split
    next capturing =>
      constructor
      · rintro ⟨⟩
        exact ⟨rfl, done⟩
      · rintro ⟨rfl, read⟩
        cases done.symm.trans read
        rfl
    next missing =>
      refine ⟨fun h => by contradiction, fun ⟨_, read⟩ => ?_⟩
      cases done.symm.trans read
      exact absurd pattern.capturing missing

/-- How one partition value is found in a path. -/
structure PartitionDefinition where
  /-- The name of the partition column. -/
  name : String
  /-- The pattern that finds the value, if it is not the usual one. -/
  pattern : Option PathPattern
  /-- A column has a name. -/
  named : name ≠ ""

/-- The values of partitions, in order of their definitions. -/
abbrev PartitionMap := List (String × Option String)

namespace PartitionMap

/-- Sets the value of a name, which keeps its place if it has one. -/
def put (partitions : PartitionMap) (name : String) (value : Option String) : PartitionMap :=
  if partitions.any (·.1 == name) then
    partitions.map fun entry => if entry.1 == name then (name, value) else entry
  else partitions ++ [(name, value)]

/-- The values of names; a name that is not there has none. -/
def values (partitions : PartitionMap) (names : List String) : List (Option String) :=
  names.map fun name => (partitions.lookup name).join

/-- The names in order. -/
def names (partitions : PartitionMap) : List String := partitions.map (·.1)

/-- The partitions of pairs in order; the last pair of a name gives its value. -/
def ofPairs (pairs : List (String × Option String)) : PartitionMap :=
  pairs.foldl (fun partitions pair => partitions.put pair.1 pair.2) []

end PartitionMap

namespace PartitionDefinition

/-- The value of a directory `name=value`; a line break may end the directory but not stand in the
value. -/
def namedValue? (name segment : List Char) : Option (List Char) :=
  if (name ++ ['=']).isPrefixOf segment then
    let rest := segment.drop (name.length + 1)
    let value := rest.takeWhile (· ≠ '\n')
    if rest = value ∨ rest = value ++ ['\n'] then some value else none
  else none

/-- What a definition finds in a directory: nothing, or a match whose first group may have taken no
part in it. -/
def find? (definition : PartitionDefinition) (segment : List Char) :
    Option (Option (List Char)) :=
  match definition.pattern with
  | none => (namedValue? definition.name.toList segment).map some
  | some pattern => (pattern.body.match? segment).map (·.captured? 1)

/-- The decoded value that a definition finds in the directories, given the value found so far. -/
def valueIn (definition : PartitionDefinition) (found : Option String) :
    List (List Char) → Outcome (Option String)
  | [] => .ok found
  | segment :: rest =>
    match definition.find? segment with
    | none => definition.valueIn found rest
    | some none => .error (.broken .illTyped)
    | some (some value) => definition.valueIn (some (Percent.decode (String.ofList value))) rest

end PartitionDefinition

namespace Partition

/-- The directories of a path, the file name left out. A location with a scheme of more than one
letter has a path of its own. -/
def directories (path : String) : Outcome (List (List Char)) := do
  let uri ← Outcome.ofOption .badValue (Uri.ofText? path)
  let raw := if 1 < uri.scheme.length then uri.path else path
  let segments := Pieces.cut (fun c => c == '/' || c == '\\') raw.toList
  return (segments.filter (!·.isEmpty)).dropLast

/-- The values of definitions in directories of a path, with the notices given on the way, which
stand even if a definition ends with a fault. -/
def valuesIn (path : String) (directories : List (List Char)) (notices : List Notice)
    (partitions : PartitionMap) : List PartitionDefinition → List Notice × Outcome PartitionMap
  | [] => (notices, .ok partitions)
  | definition :: rest =>
    match definition.valueIn none directories with
    | .error fault => (notices, .error fault)
    | .ok value =>
      let missing := if value.isNone then [Notice.partitionMissing definition.name path] else []
      valuesIn path directories (notices ++ missing) (partitions.put definition.name value) rest

/-- The values of definitions in a path. -/
def ofPath (path : String) (definitions : List PartitionDefinition) :
    List Notice × Outcome PartitionMap :=
  match directories path with
  | .error fault => ([], .error fault)
  | .ok directories => valuesIn path directories [] [] definitions

end Partition

end OrcRows
