import OrcRows.Proofs.Partition.Directories
import OrcRows.Proofs.Partition.Values
import OrcRows.Proofs.Pattern.Usual
import OrcRows.Proofs.Text.Percent

/-!
# Values of named directories

Definitions without patterns take their values from the text of a rooted path: the value of a name
is what follows an equals sign in the last directory that begins with the name and the sign. A text
that was written there with percent escapes is read back.
-/

namespace OrcRows

namespace PartitionDefinition

/-- A directory without line breaks gives all that follows the equals sign. -/
theorem namedValue?_of_not_mem {name folder : List Char} (line : '\n' ∉ folder) :
    namedValue? name folder =
      if (name ++ ['=']).isPrefixOf folder then some (folder.drop (name.length + 1)) else none := by
  have whole : (folder.drop (name.length + 1)).takeWhile (fun c => decide (c ≠ '\n')) =
      folder.drop (name.length + 1) := by
    rw [List.takeWhile_eq_self_iff]
    intro c member
    simp only [decide_eq_true_eq]
    rintro rfl
    exact line (List.mem_of_mem_drop member)
  rw [namedValue?]
  simp only [whole, true_or, if_true]

/-- What follows the equals sign in the last directory that begins with a name and the sign. -/
def lastNamed? (name : List Char) (folders : List (List Char)) : Option (List Char) :=
  (folders.reverse.find? fun folder => (name ++ ['=']).isPrefixOf folder).map
    (·.drop (name.length + 1))

/-- The last directory that begins with the name and the sign gives its remainder. -/
theorem lastNamed?_append {name written : List Char} {before after : List (List Char)}
    (none : ∀ folder ∈ after, ¬ (name ++ ['=']) <+: folder) :
    lastNamed? name (before ++ (name ++ '=' :: written) :: after) = some written := by
  have skipped : after.reverse.find? (fun folder => (name ++ ['=']).isPrefixOf folder) =
      Option.none := by
    rw [List.find?_eq_none]
    intro folder member
    rw [List.isPrefixOf_iff_prefix]
    exact none folder (List.mem_reverse.mp member)
  have named : (name ++ ['=']).isPrefixOf (name ++ '=' :: written) = true := by
    rw [List.isPrefixOf_iff_prefix]
    exact ⟨written, by simp⟩
  rw [lastNamed?, List.reverse_append, List.reverse_cons, List.append_assoc, List.find?_append,
    skipped, Option.none_or, List.singleton_append, List.find?_cons_of_pos named, Option.map_some]
  simp

variable {definition : PartitionDefinition} {path : String}

/-- There are no line breaks in the directories of a rooted path. -/
theorem not_mem_of_mem_folders (rooted : IsRooted path) {folder : List Char}
    (member : folder ∈ Partition.folders path) : '\n' ∉ folder := by
  intro inside
  have code := rooted.plain _ (Partition.mem_of_mem_folders member _ inside)
  exact absurd code (by decide)

/-- A definition without a pattern has no groups that could be left out. -/
theorem not_isTorn_of_unwritten (unwritten : definition.pattern = none)
    (directories : List (List Char)) : ¬ definition.IsTorn directories := by
  rintro ⟨directory, _, torn⟩
  rw [find?, unwritten] at torn
  simp at torn

/-- Where a search gives results exactly for members of a kind, it gives that of the first one. -/
theorem findSome?_eq_map_find? {α β : Type} {kind : α → Bool} {result : α → β}
    {search : α → Option β} {members : List α}
    (found : ∀ member ∈ members,
      search member = if kind member then some (result member) else none) :
    members.findSome? search = (members.find? kind).map result := by
  induction members with
  | nil => rfl
  | cons member rest ih =>
    obtain ⟨here, later⟩ := List.forall_mem_cons.mp found
    rw [List.findSome?_cons, List.find?_cons, here, ih later]
    cases kind member <;> rfl

/-- A definition without a pattern finds the remainder of the last directory with its name. -/
theorem last?_folders (unwritten : definition.pattern = none) (rooted : IsRooted path) :
    definition.last? (Partition.folders path) =
      (lastNamed? definition.name.toList (Partition.folders path)).map fun written =>
        Percent.decode (String.ofList written) := by
  have found : ∀ folder ∈ (Partition.folders path).reverse,
      (definition.find? folder).join =
        if (definition.name.toList ++ ['=']).isPrefixOf folder then
          some (folder.drop (definition.name.toList.length + 1))
        else none := by
    intro folder member
    have line := not_mem_of_mem_folders rooted (List.mem_reverse.mp member)
    simp only [find?, unwritten, namedValue?_of_not_mem line]
    split <;> rfl
  rw [last?, lastNamed?, findSome?_eq_map_find? found]

end PartitionDefinition

namespace Partition

/-- A partition is looked up by the name of its definition. -/
theorem lookup_map_of_mem {definitions : List PartitionDefinition}
    {value : PartitionDefinition → Option String} {definition : PartitionDefinition}
    (distinct : (definitions.map (·.name)).Nodup) (member : definition ∈ definitions) :
    (definitions.map fun other => (other.name, value other)).lookup definition.name =
      some (value definition) := by
  induction definitions with
  | nil => cases member
  | cons first rest ih =>
    obtain ⟨own, others⟩ := List.nodup_cons.mp distinct
    rw [List.map_cons]
    obtain rfl | member := List.mem_cons.mp member
    · exact List.lookup_cons_self
    · have apart : (definition.name == first.name) = false := by
        rw [beq_eq_false_iff_ne]
        intro same
        exact own (List.mem_map.mpr ⟨definition, member, same⟩)
      rw [List.lookup_cons, apart]
      exact ih others member

/-- The partitions of a path are what each definition finds in its directories, with a notice for
every definition that finds nothing. -/
theorem ofPath_of_directories {path : String} {directories : List (List Char)}
    {definitions : List PartitionDefinition} (split : Partition.directories path = .ok directories)
    (whole : ∀ definition ∈ definitions, ¬ definition.IsTorn directories)
    (distinct : (definitions.map (·.name)).Nodup) :
    ofPath path definitions = (missing path directories definitions,
      .ok (definitions.map fun definition => (definition.name, definition.last? directories))) := by
  have fresh : ∀ definition ∈ definitions, definition.name ∉ PartitionMap.names [] :=
    fun _ _ => List.not_mem_nil
  rw [ofPath, split]
  exact valuesIn_eq_ok whole distinct fresh []

/-- The partitions of a rooted path are what each definition finds among the names in it, with a
notice for every definition that finds nothing. -/
theorem ofPath_eq_ok {path : String} {definitions : List PartitionDefinition}
    (rooted : IsRooted path)
    (whole : ∀ definition ∈ definitions, ¬ definition.IsTorn (folders path))
    (distinct : (definitions.map (·.name)).Nodup) :
    ofPath path definitions = (missing path (folders path) definitions,
      .ok (definitions.map fun definition =>
        (definition.name, definition.last? (folders path)))) :=
  ofPath_of_directories (directories_of_isRooted rooted) whole distinct

open PartitionDefinition in
/-- Definitions without patterns give, for each name in order, what the last directory that begins
with the name and an equals sign has behind the sign, percent escapes decoded, just as the usual
pattern of the name, read from its text, finds it. A text that was written there with escapes is the
value. -/
theorem ofPath_named {path : String} {definitions : List PartitionDefinition}
    (rooted : IsRooted path) (unwritten : ∀ definition ∈ definitions, definition.pattern = none)
    (distinct : (definitions.map (·.name)).Nodup) :
    (ofPath path definitions).2 = .ok (definitions.map fun definition =>
      (definition.name, (lastNamed? definition.name.toList (folders path)).map fun written =>
        Percent.decode (String.ofList written))) ∧
    (∀ definition ∈ definitions, ∀ characters,
      PathPattern.ofText characters (Pattern.usualText definition.name) =
        .ok (PathPattern.usual definition.name)) ∧
    (∀ definition ∈ definitions, ∀ folder, definition.find? folder =
      ((PathPattern.usual definition.name).body.match? folder).map (·.captured? 1)) ∧
    ∀ definition ∈ definitions, ∀ before after written text,
      folders path = before ++ (definition.name.toList ++ '=' :: written) :: after →
      (∀ folder ∈ after, ¬ (definition.name.toList ++ ['=']) <+: folder) →
      Percent.Writes text written →
      ∃ partitions, (ofPath path definitions).2 = .ok partitions ∧
        partitions.lookup definition.name = some (some (String.ofList text)) := by
  have result : (ofPath path definitions).2 = .ok (definitions.map fun definition =>
      (definition.name, (lastNamed? definition.name.toList (folders path)).map fun written =>
        Percent.decode (String.ofList written))) := by
    have whole : ∀ definition ∈ definitions, ¬ definition.IsTorn (folders path) :=
      fun definition member => not_isTorn_of_unwritten (unwritten definition member) _
    rw [ofPath_eq_ok rooted whole distinct]
    refine congrArg Except.ok (List.map_congr_left fun definition member => ?_)
    rw [last?_folders (unwritten definition member) rooted]
  refine ⟨result,
    fun definition _ characters => PathPattern.ofText_usual characters definition.name,
    fun definition member => find?_usual (unwritten definition member), ?_⟩
  intro definition member before after written text split none writes
  refine ⟨_, result, ?_⟩
  rw [lookup_map_of_mem distinct member, split, lastNamed?_append none, Option.map_some,
    writes.decode]

/-- The city of a path. -/
def cityDefinition : PartitionDefinition := ⟨"city", none, by decide⟩

/-- A city with a letter beyond ASCII, a separator and a percent sign in its name. -/
theorem ofPath_named_city :
    IsRooted "/d/city=Oslo/city=S%c3%A3o%2FPaulo%25/f.orc" ∧ cityDefinition.pattern = none ∧
      (ofPath "/d/city=Oslo/city=S%c3%A3o%2FPaulo%25/f.orc" [cityDefinition]).2 =
        .ok [("city", some "São/Paulo%")] ∧
      ∃ partitions, (ofPath "/d/city=Oslo/city=S%c3%A3o%2FPaulo%25/f.orc" [cityDefinition]).2 =
        .ok partitions ∧ partitions.lookup "city" = some (some "São/Paulo%") := by
  have rooted : IsRooted "/d/city=Oslo/city=S%c3%A3o%2FPaulo%25/f.orc" :=
    .of_all rfl (by decide) rfl
  have letter : Percent.Escapes (Utf8.encodeChar 'ã') "%c3%A3".toList :=
    show Percent.Escapes [0xc3, 0xa3] _ from .cons rfl rfl (.cons rfl rfl .nil)
  have separator : Percent.Escapes (Utf8.encodeChar '/') "%2F".toList := .cons rfl rfl .nil
  have sign : Percent.Escapes (Utf8.encodeChar '%') "%25".toList := .cons rfl rfl .nil
  have writes : Percent.Writes "São/Paulo%".toList "S%c3%A3o%2FPaulo%25".toList :=
    .plain (by decide) (.escaped letter (.plain (by decide) (.escaped separator
      (.append (.of_not_mem (show '%' ∉ "Paulo".toList by decide)) (.escaped sign .nil)))))
  have unwritten : ∀ definition ∈ [cityDefinition], definition.pattern = none := by
    simp [cityDefinition]
  obtain ⟨result, _, _, values⟩ := ofPath_named rooted unwritten (by decide)
  exact ⟨rooted, rfl, result.trans rfl, values cityDefinition List.mem_cons_self
    [['d'], "city=Oslo".toList] [] _ _ rfl (by simp) writes⟩

end Partition

end OrcRows
