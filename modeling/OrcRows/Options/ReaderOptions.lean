import OrcRows.Cell.Leaf
import OrcRows.Options.Rules
import OrcRows.Partition

/-!
# Options of a read

Options come as keys and values. Every option has two spellings of its key, of which the second
counts only if the first is absent; a key that is left over is unknown. Accepted options select each
column once, name each partition once, and merge partitions only if there are any.
-/

namespace OrcRows

/-- Keys and values as they come. -/
abbrev RawOptions := List (String × Value)

namespace PartitionDefinition

/-- The pattern of a definition, which may be left out. -/
def patternOf (rules : OptionRules) (place : List PlaceStep) :
    Option Value → Checked (Option PathPattern)
  | none => .ok none
  | some .null => .ok none
  | some value => do
    let text ← Checked.placed place (rules.text value)
    match PathPattern.ofText rules.characters text with
    | .ok pattern => .ok (some pattern)
    | .error .unreadable => .fail place (.refused none)
    | .error .contradictory =>
      .fail place (.refused (some "ASCII and UNICODE flags are incompatible"))
    | .error .countTooLarge => .error (.broken .tooLarge)
    | .error (.countTooLong digits) => .fail place (.refused (some
        ("Exceeds the limit (" ++ toString Integer.digitLimit ++ " digits) for integer string " ++
          "conversion: value has " ++ toString digits ++ " digits; use " ++
          "sys.set_int_max_str_digits() to increase the limit")))
    | .error .tooDeep => .error (.broken .tooDeep)
    | .error .noGroup => .fail place (.refused (some
        ("partition pattern " ++ Quoted.text text ++ " needs one capture group")))

/-- The name of a definition. -/
def nameOf (rules : OptionRules) (place : List PlaceStep) :
    Option Value → Checked { name : String // name ≠ "" }
  | none => .fail place .missing
  | some value => do
    let name ← Checked.placed place (rules.text value)
    if named : name ≠ "" then .ok ⟨name, named⟩ else .fail place .emptyName

/-- The keys of a mapping that are texts, with their values. -/
def textEntries (entries : List (Value × Value)) : RawOptions :=
  entries.filterMap fun entry => match entry.1 with
    | .text key => some (key, entry.2)
    | _ => none

/-- The problem of a key that no definition has. -/
def strayKey? (place : List PlaceStep) : Value → Option OptionProblem
  | .text key =>
    if key = "name" ∨ key = "pattern" then none else some ⟨place ++ [.key key], .unknownKey⟩
  | key => some ⟨place ++ [.other key], .notKey⟩

/-- The definition of a mapping: a name, a pattern and nothing else. -/
def ofEntries (rules : OptionRules) (place : List PlaceStep) (entries : List (Value × Value)) :
    Checked PartitionDefinition :=
  let given := textEntries entries
  let name := nameOf rules (place ++ [.key "name"]) (given.lookup "name")
  let pattern := patternOf rules (place ++ [.key "pattern"]) (given.lookup "pattern")
  let stray := entries.filterMap fun entry => strayKey? place entry.1
  (Checked.both name (Checked.both pattern (Checked.without stray))).map
    fun (name, pattern, _) => ⟨name.1, pattern, name.2⟩

/-- The definition of keys that are texts, and their values. -/
def ofRaw (rules : OptionRules) (place : List PlaceStep) (raw : RawOptions) :
    Checked PartitionDefinition :=
  ofEntries rules place (raw.map fun entry => (.text entry.1, entry.2))

/-- A bare name as a mapping of it. -/
def ofBareName : Value → Value
  | .text name => .map [(.text "name", .text name)]
  | other => other

/-- A list in which definitions may be bare names, each of them as a mapping. A union counts as a
list of its parts. -/
def withBareNames : Value → Value
  | .list values => .list (values.map ofBareName)
  | .union tag _ value => .list [.int tag, .null, ofBareName value]
  | other => other

/-- The definition of a value, which has to be a mapping. -/
def ofValue (rules : OptionRules) (place : List PlaceStep) : Value → Checked PartitionDefinition
  | .map entries => ofEntries rules place entries
  | _ => .fail place .notDefinition

end PartitionDefinition

/-- Options of a read. -/
structure ReaderOptions where
  /-- The encoding of text. -/
  encoding : Encoding
  /-- The selected columns; none selected means all. -/
  selected : Option (List String)
  /-- Partition values from the path are appended to rows. -/
  mergesPartitions : Bool
  /-- How partition values are found. -/
  definitions : List PartitionDefinition
  /-- Bytes of text columns that begin like an image stay bytes. -/
  keepsImages : Bool
  /-- No column is selected twice. -/
  columnsDistinct : (selected.getD []).Nodup
  /-- No partition is named twice. -/
  partitionsDistinct : (definitions.map (·.name)).Nodup
  /-- Partitions are merged only if there are any. -/
  mergesSome : mergesPartitions = true → definitions ≠ []

namespace ReaderOptions

/-- The options of a caller who gives none. -/
def standard : ReaderOptions where
  encoding := .utf8
  selected := none
  mergesPartitions := false
  definitions := []
  keepsImages := false
  columnsDistinct := by simp
  partitionsDistinct := by simp
  mergesSome := by simp

/-- How bytes become text. -/
def textPolicy (options : ReaderOptions) : TextPolicy := ⟨options.encoding, options.keepsImages⟩

/-- The names of the partitions. -/
def partitionNames (options : ReaderOptions) : List String := options.definitions.map (·.name)

/-- The spellings of the keys, in order of the options; the first of a pair wins. -/
def spellings : List (String × String) :=
  [("textEncoding", "text_encoding"), ("selectedColumns", "selected_columns"),
   ("mergePartitions", "merge_partitions"), ("partitionDefinitions", "partition_definitions"),
   ("binarySignaturePassthrough", "binary_signature_passthrough")]

/-- The key of an option that is given. -/
def keyIn (raw : RawOptions) (spelling : String × String) : Option String :=
  [spelling.1, spelling.2].find? fun key => raw.any (·.1 == key)

/-- Checks the value of an option that is given; an option that is not has its standard value. -/
def option {α : Type} (raw : RawOptions) (spelling : String × String) (standard : α)
    (check : List PlaceStep → Value → Checked α) : Checked α :=
  match keyIn raw spelling with
  | none => .ok standard
  | some key => check [.key key] ((raw.lookup key).getD .null)

/-- The encoding named by a value. -/
def encodingOf (rules : OptionRules) (place : List PlaceStep) (value : Value) :
    Checked Encoding := do
  let label ← Checked.placed place (rules.text value)
  if label.toList.contains '\x00' then
    .fail place (.refused (some "embedded null character"))
  else match rules.encodings.find? label with
    | some encoding => .ok encoding
    | none => .fail place (.refused (some ("unknown text encoding " ++ Quoted.text label)))

/-- The truth value of a value. -/
def truthOf (rules : OptionRules) (place : List PlaceStep) (value : Value) : Checked Bool :=
  Checked.placed place (rules.truth value)

/-- The first member of a list that occurs earlier in it. -/
def firstRepeated (seen : List String) : List String → Option String
  | [] => none
  | name :: rest => if seen.contains name then some name else firstRepeated (name :: seen) rest

/-- A list in which nothing is found to be repeated has no repetitions. -/
theorem nodup_of_firstRepeated {seen names : List String}
    (fresh : firstRepeated seen names = none) : names.Nodup ∧ ∀ name ∈ names, name ∉ seen := by
  induction names generalizing seen with
  | nil => simp
  | cons name rest ih =>
    simp only [firstRepeated] at fresh
    split at fresh
    · contradiction
    · rename_i absent
      have tail := ih fresh
      refine ⟨List.nodup_cons.2 ⟨fun member => ?_, tail.1⟩, ?_⟩
      · exact tail.2 name member (by simp)
      · intro other member
        rcases List.mem_cons.1 member with rfl | member
        · simpa using absent
        · exact fun inside => tail.2 other member (by simp [inside])

/-- Selected columns, each of them once; none selected means all. -/
abbrev Selection := { selected : Option (List String) // (selected.getD []).Nodup }

/-- No column selected in particular. -/
def Selection.all : Selection := ⟨none, by simp⟩

/-- The columns listed by a value, each of them once. -/
def columnsOf (rules : OptionRules) (place : List PlaceStep) : Value → Checked Selection
  | .null => .ok .all
  | value => do
    let values ← Checked.placed place (rules.members value)
    let names ← Checked.each
      (fun i value => Checked.placed (place ++ [.position i]) (rules.text value)) 0 values
    match fresh : firstRepeated [] names with
    | none => .ok ⟨some names, (nodup_of_firstRepeated fresh).1⟩
    | some name => .fail place (.refused (some
        ("column " ++ Quoted.text name ++ " selected more than once")))

/-- The definitions listed by a value. -/
def definitionsOf (rules : OptionRules) (place : List PlaceStep) (value : Value) :
    Checked (List PartitionDefinition) := do
  let values ← Checked.placed place (rules.members (PartitionDefinition.withBareNames value))
  Checked.each (fun i => PartitionDefinition.ofValue rules (place ++ [.position i])) 0 values

/-- Checks the options together: merging needs definitions, and names of partitions are
distinct. -/
def together (encoding : Encoding) (selection : Selection) (merges : Bool)
    (definitions : List PartitionDefinition) (keepsImages : Bool) : Checked ReaderOptions :=
  if mergesSome : merges = true → definitions ≠ [] then
    if partitionsDistinct : (definitions.map (·.name)).Nodup then
      .ok ⟨encoding, selection.1, merges, definitions, keepsImages, selection.2,
        partitionsDistinct, mergesSome⟩
    else .fail [] (.refused (some ("duplicate partition definitions: " ++
      (Value.list (definitions.map fun definition => .text definition.name)).quoted)))
  else .fail [] (.refused (some "merge_partitions requires partition_definitions"))

/-- The options of keys and values, which rules read. -/
def ofRaw (rules : OptionRules) (raw : RawOptions) : Checked ReaderOptions := do
  let encoding := option raw ("textEncoding", "text_encoding") .utf8 (encodingOf rules)
  let selection := option raw ("selectedColumns", "selected_columns") .all (columnsOf rules)
  let merges := option raw ("mergePartitions", "merge_partitions") false (truthOf rules)
  let definitions := option raw ("partitionDefinitions", "partition_definitions") []
    (definitionsOf rules)
  let images := option raw ("binarySignaturePassthrough", "binary_signature_passthrough") false
    (truthOf rules)
  let known := spellings.filterMap (keyIn raw)
  let unknown := raw.filterMap fun entry =>
    if known.contains entry.1 then none
    else some (⟨[.key entry.1], .unknownKey⟩ : OptionProblem)
  let (encoding, selection, merges, definitions, images, _) ← Checked.both encoding
    (Checked.both selection (Checked.both merges (Checked.both definitions
      (Checked.both images (Checked.without unknown)))))
  together encoding selection merges definitions images

end ReaderOptions

end OrcRows
