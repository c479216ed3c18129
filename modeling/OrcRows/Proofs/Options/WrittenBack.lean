import OrcRows.Proofs.Options.Accepted
import Mathlib.Data.List.Forall2
import Mathlib.Data.List.Nodup
import Mathlib.Data.List.Perm.Basic

/-!
# Options that are written back

Accepted options are consistent, and they are a fixed point: keys and values that write them are
accepted as the same options again, under either spelling of every key, in any order, and with
definitions that have no pattern written as bare names or as mappings.
-/

namespace OrcRows

/-- Where no key occurs twice, a key is looked up to the value that stands with it. -/
theorem lookup_of_mem {raw : RawOptions} {key : String} {value : Value}
    (distinct : (raw.map (·.1)).Nodup) (member : (key, value) ∈ raw) :
    raw.lookup key = some value := by
  obtain ⟨front, back, rfl⟩ := List.append_of_mem member
  rw [List.map_append, List.map_cons] at distinct
  refine List.lookup_eq_some_iff.mpr ⟨front, back, rfl, fun entry earlier => ?_⟩
  have apart := (List.nodup_append.mp distinct).2.2 entry.1 (List.mem_map_of_mem earlier) key
    List.mem_cons_self
  exact bne_iff_ne.mpr apart.symm

namespace Checked

/-- Nothing is left over if every problem that could be found is none. -/
theorem without_filterMap_eq_ok {α : Type} (entries : List α) (problem : α → Option OptionProblem)
    (none : ∀ entry ∈ entries, problem entry = none) :
    without (entries.filterMap problem) = .ok () := by
  rw [List.filterMap_eq_nil_iff.mpr none]
  rfl

/-- Checks of all members succeed if each does, wherever it stands. -/
theorem each_eq_ok {α β : Type} {check : Nat → α → Checked β} {inputs : List α} {results : List β}
    (h : List.Forall₂ (fun result input => ∀ place, check place input = .ok result) results inputs)
    (first : Nat) : each check first inputs = .ok results := by
  induction h generalizing first with
  | nil => rfl
  | cons here _ ih =>
    rw [each, both_eq_ok_iff.mpr ⟨here first, ih (first + 1)⟩]
    rfl

/-- Checks of all members that succeed have given each its result. -/
theorem forall₂_of_each_eq_ok {α β : Type} {check : Nat → α → Checked β} {inputs : List α}
    {results : List β} {first : Nat} (h : each check first inputs = .ok results) :
    List.Forall₂ (fun result input => ∃ place, check place input = .ok result) results inputs := by
  induction inputs generalizing first results with
  | nil =>
    injection h with same
    exact same ▸ .nil
  | cons input rest ih =>
    rw [each] at h
    cases both : Checked.both (check first input) (each check (first + 1) rest) with
    | error refusal =>
      rw [both] at h
      contradiction
    | ok pair =>
      rw [both] at h
      injection h with same
      obtain ⟨here, later⟩ := both_eq_ok_iff.mp both
      exact same ▸ .cons ⟨first, here⟩ (ih later)

end Checked

namespace PartitionDefinition

variable {rules : OptionRules} {definition : PartitionDefinition} {value : Value}
  {place : List PlaceStep}

/-- The pattern of a definition, if it has one, is what rules read its text as. -/
def ReadsBy (rules : OptionRules) (definition : PartitionDefinition) : Prop :=
  ∀ pattern, definition.pattern = some pattern →
    PathPattern.ofText rules.characters pattern.text = .ok pattern

/-- The pattern of a definition as a value, which is missing if there is none. -/
def patternValue (definition : PartitionDefinition) : Value :=
  match definition.pattern with
  | none => .null
  | some pattern => .text pattern.text

/-- A value writes a definition: a mapping of its name and its pattern, in either order, or for a
definition without a pattern a mapping of its name alone, or its bare name. -/
inductive IsWritten (definition : PartitionDefinition) : Value → Prop
  | bare (usual : definition.pattern = none) : IsWritten definition (.text definition.name)
  | named (usual : definition.pattern = none) :
      IsWritten definition (.map [(.text "name", .text definition.name)])
  | whole {entries : List (Value × Value)}
      (order : entries.Perm [(.text "name", .text definition.name),
        (.text "pattern", definition.patternValue)]) :
      IsWritten definition (.map entries)

/-- The pattern of a definition is read from its value. -/
theorem patternOf_patternValue (reads : definition.ReadsBy rules) (place : List PlaceStep) :
    patternOf rules place (some definition.patternValue) = .ok definition.pattern := by
  rw [patternValue]
  cases written : definition.pattern with
  | none => rfl
  | some pattern =>
    refine (Checked.placed_bind (rules.text_text pattern.text) _).trans ?_
    simp only [reads pattern written]

/-- A definition is read from a mapping of its name, its pattern and nothing else. -/
theorem ofEntries_eq_ok {entries : List (Value × Value)} (place : List PlaceStep)
    (named : (textEntries entries).lookup "name" = some (.text definition.name))
    (patterned : patternOf rules (place ++ [.key "pattern"])
      ((textEntries entries).lookup "pattern") = .ok definition.pattern)
    (only : ∀ entry ∈ entries, entry.1 = .text "name" ∨ entry.1 = .text "pattern") :
    ofEntries rules place entries = .ok definition := by
  have hname : nameOf rules (place ++ [.key "name"]) ((textEntries entries).lookup "name") =
      .ok ⟨definition.name, definition.named⟩ := by
    rw [named]
    exact (Checked.placed_bind (rules.text_text definition.name) _).trans (dif_pos definition.named)
  have known := Checked.without_filterMap_eq_ok entries (fun entry => strayKey? place entry.1)
    fun entry member => by
      rcases only entry member with same | same <;> rw [same] <;> rfl
  rw [ofEntries, hname, patterned, known]
  rfl

/-- A definition is read from every value that writes it, once a bare name is a mapping. -/
theorem ofValue_of_isWritten (reads : definition.ReadsBy rules) (h : definition.IsWritten value)
    (place : List PlaceStep) : ofValue rules place (ofBareName value) = .ok definition := by
  cases h with
  | bare usual => exact ofEntries_eq_ok place rfl (by rw [usual]; rfl) (by simp)
  | named usual => exact ofEntries_eq_ok place rfl (by rw [usual]; rfl) (by simp)
  | @whole entries order =>
    have kept : (textEntries entries).Perm
        [("name", .text definition.name), ("pattern", definition.patternValue)] :=
      order.filterMap _
    have distinct : ((textEntries entries).map (·.1)).Nodup :=
      (kept.map (·.1)).nodup_iff.mpr (by simp)
    have patterned : (textEntries entries).lookup "pattern" = some definition.patternValue :=
      lookup_of_mem distinct (kept.mem_iff.mpr (by simp))
    refine ofEntries_eq_ok place (lookup_of_mem distinct (kept.mem_iff.mpr (by simp))) ?_ ?_
    · rw [patterned]
      exact patternOf_patternValue reads _
    · intro entry member
      have known := order.mem_iff.mp member
      simp only [List.mem_cons, List.not_mem_nil, or_false] at known
      exact known.imp (congrArg Prod.fst) (congrArg Prod.fst)

/-- The value under which a mapping names a definition. -/
def nameValue? : Value → Option Value
  | .map entries => (textEntries entries).lookup "name"
  | _ => none

/-- A pattern that a definition is given is what rules read its text as. -/
theorem readsBy_of_patternOf {given : Option Value} {pattern : Option PathPattern}
    (h : patternOf rules place given = .ok pattern) :
    ∀ written, pattern = some written →
      PathPattern.ofText rules.characters written.text = .ok written := by
  rintro written rfl
  have read : ∃ text, PathPattern.ofText rules.characters text = .ok written := by
    rw [patternOf.eq_def] at h
    split at h
    case h_1 => cases h
    case h_2 => cases h
    case h_3 value _ =>
      obtain ⟨text, _, h⟩ := Checked.bind_eq_ok h
      refine ⟨text, ?_⟩
      split at h
      case h_1 found read =>
        injection h with same
        injection same with same
        rw [read, same]
      all_goals contradiction
  obtain ⟨text, read⟩ := read
  obtain ⟨rfl, _⟩ := PathPattern.ofText_eq_ok_iff.mp read
  exact read

/-- A definition that is read has a pattern that is what rules read its text as, and the name that
its value names. -/
theorem ofValue_eq_ok (h : ofValue rules place value = .ok definition) :
    definition.ReadsBy rules ∧
      ∃ named, nameValue? value = some named ∧ rules.text named = .ok definition.name := by
  cases value with
  | map entries =>
    obtain ⟨⟨name, pattern, rest⟩, checked, made⟩ := Checked.bind_eq_ok h
    obtain ⟨hname, checked⟩ := Checked.both_eq_ok_iff.mp checked
    obtain ⟨hpattern, _⟩ := Checked.both_eq_ok_iff.mp checked
    injection made with made
    subst made
    refine ⟨readsBy_of_patternOf hpattern, ?_⟩
    rw [nameOf.eq_def] at hname
    split at hname
    case h_1 => contradiction
    case h_2 named found =>
      obtain ⟨text, read, hname⟩ := Checked.bind_eq_ok hname
      refine ⟨named, found, ?_⟩
      split at hname
      · injection hname with same
        rw [← same]
        exact Checked.placed_eq_ok_iff.mp read
      · contradiction
  | _ => contradiction

end PartitionDefinition

namespace ReaderOptions

variable {rules : OptionRules} {options : ReaderOptions} {raw : RawOptions}
  {spell : String × String → String}
  {definitions : List Value}

/-- A selection of columns as a value, which is missing if there is none. -/
def columnsValue : Option (List String) → Value
  | none => .null
  | some names => Schema.nameList names

/-- The values of the options in the order of their spellings, given values that write the
definitions. -/
def values (options : ReaderOptions) (definitions : List Value) : List Value :=
  [.text options.encoding.name, columnsValue options.selected, .bool options.mergesPartitions,
   .list definitions, .bool options.keepsImages]

/-- Keys and values write options: each option has one of its two spellings for a key, the keys come
in any order, and the values of the definitions write them one by one. -/
structure IsWritten (options : ReaderOptions) (spell : String × String → String)
    (definitions : List Value) (raw : RawOptions) : Prop where
  /-- A spelling is chosen for every key. -/
  spelled : ∀ spelling, spell spelling = spelling.1 ∨ spell spelling = spelling.2
  /-- The values of the definitions write them. -/
  defined : List.Forall₂ PartitionDefinition.IsWritten options.definitions definitions
  /-- Every option is there, and nothing else. -/
  order : raw.Perm ((spellings.map spell).zip (options.values definitions))

/-- No key is a spelling of two options. -/
theorem eq_of_spell_eq (spelled : ∀ spelling, spell spelling = spelling.1 ∨
    spell spelling = spelling.2) {key : String} {a b : String × String} (ha : a ∈ spellings)
    (hb : b ∈ spellings) (found : spell a = key) (again : b.1 = key ∨ b.2 = key) : a = b := by
  have apart : ∀ a ∈ spellings, ∀ b ∈ spellings,
      a.1 = b.1 ∨ a.1 = b.2 ∨ a.2 = b.1 ∨ a.2 = b.2 → a = b := by
    decide +kernel
  refine apart a ha b hb ?_
  subst found
  rcases spelled a with first | second
  · rw [first] at again
    exact again.elim (fun same => .inl same.symm) fun same => .inr (.inl same.symm)
  · rw [second] at again
    exact .inr (.inr (again.imp Eq.symm Eq.symm))

namespace IsWritten

/-- The keys are the chosen spellings. -/
theorem keys_perm (h : options.IsWritten spell definitions raw) :
    (raw.map (·.1)).Perm (spellings.map spell) :=
  h.order.map (·.1)

/-- No key occurs twice. -/
theorem distinct (h : options.IsWritten spell definitions raw) : (raw.map (·.1)).Nodup := by
  refine h.keys_perm.nodup_iff.mpr (List.Nodup.map_on ?_ (by decide +kernel))
  intro a ha b hb same
  exact eq_of_spell_eq h.spelled ha hb same ((h.spelled b).imp Eq.symm Eq.symm)

/-- The key of an option is found under the spelling that was chosen. -/
theorem keyIn_eq (h : options.IsWritten spell definitions raw) {spelling : String × String}
    (member : spelling ∈ spellings) : keyIn raw spelling = some (spell spelling) := by
  have present : ∀ key, raw.any (·.1 == key) = true ↔ ∃ other ∈ spellings, spell other = key := by
    intro key
    rw [← List.mem_map, ← h.keys_perm.mem_iff, List.any_eq_true]
    simp only [beq_iff_eq, List.mem_map]
  have here : raw.any (·.1 == spell spelling) = true := (present _).mpr ⟨spelling, member, rfl⟩
  rw [keyIn]
  rcases h.spelled spelling with first | second
  · rw [first] at here ⊢
    simp [here]
  · by_cases same : spelling.1 = spelling.2
    · rw [second] at here ⊢
      simp [same, here]
    · have absent : raw.any (·.1 == spelling.1) = false := by
        rw [← Bool.not_eq_true, present]
        rintro ⟨other, known, found⟩
        have sole := eq_of_spell_eq h.spelled known member found (.inl rfl)
        rw [sole, second] at found
        exact same found.symm
      rw [second] at here ⊢
      simp [absent, here]

/-- An option is checked with the value that stands with its key. -/
theorem option_eq {α : Type} (h : options.IsWritten spell definitions raw)
    {spelling : String × String} (member : spelling ∈ spellings) (value : Value)
    (valued : (spell spelling, value) ∈ (spellings.map spell).zip (options.values definitions))
    (standard : α) (check : List PlaceStep → Value → Checked α) :
    option raw spelling standard check = check [.key (spell spelling)] value := by
  have found := lookup_of_mem h.distinct (h.order.mem_iff.mpr valued)
  rw [option, h.keyIn_eq member]
  simp only [found, Option.getD_some]

end IsWritten

/-- An encoding is read from its canonical name where it is found under it. -/
theorem encodingOf_name {encoding : Encoding}
    (found : rules.encodings.find? encoding.name = some encoding) (place : List PlaceStep) :
    encodingOf rules place (.text encoding.name) = .ok encoding := by
  have bare : encoding.name.toList.contains '\x00' = false := by
    simpa using EncodingRegistry.unbroken_of_find? found
  refine (Checked.placed_bind (rules.text_text encoding.name) _).trans ?_
  simp only [bare, found, Bool.false_eq_true, if_false]

/-- A truth value is read from its value. -/
theorem truthOf_bool (place : List PlaceStep) (value : Bool) :
    truthOf rules place (.bool value) = .ok value := by
  exact Checked.placed_eq_ok_iff.mpr (rules.truth_bool value)

/-- Nothing is found to be repeated in a list without repetitions. -/
theorem firstRepeated_eq_none {seen names : List String} (distinct : names.Nodup)
    (fresh : ∀ name ∈ names, name ∉ seen) : firstRepeated seen names = none := by
  induction names generalizing seen with
  | nil => rfl
  | cons name rest ih =>
    obtain ⟨absent, others⟩ := List.nodup_cons.mp distinct
    obtain ⟨here, later⟩ := List.forall_mem_cons.mp fresh
    have unseen : seen.contains name = false := by simpa using here
    rw [firstRepeated, unseen]
    refine ih others fun other member inside => ?_
    rcases List.mem_cons.mp inside with rfl | inside
    · exact absent member
    · exact later other member inside

/-- A selection of distinct columns is read from its value. -/
theorem columnsOf_columnsValue {selected : Option (List String)}
    (distinct : (selected.getD []).Nodup) (place : List PlaceStep) :
    columnsOf rules place (columnsValue selected) = .ok ⟨selected, distinct⟩ := by
  cases selected with
  | none => rfl
  | some names =>
    have texts : Checked.each
        (fun i value => Checked.placed (place ++ [.position i]) (rules.text value)) 0
        (names.map Value.text) = .ok names := by
      refine Checked.each_eq_ok (List.forall₂_map_right_iff.mpr ?_) 0
      exact List.forall₂_same.mpr fun name _ i =>
        Checked.placed_eq_ok_iff.mpr (rules.text_text name)
    have fresh : firstRepeated [] names = none := firstRepeated_eq_none distinct (by simp)
    refine (Checked.placed_bind (rules.members_list (names.map Value.text)) _).trans ?_
    rw [texts]
    simp only [bind, Except.bind]
    split
    · rfl
    · simp_all

/-- The definitions are read from values that write them. -/
theorem definitionsOf_of_isWritten {written : List PartitionDefinition}
    (reads : ∀ definition ∈ written, definition.ReadsBy rules)
    (h : List.Forall₂ PartitionDefinition.IsWritten written definitions)
    (place : List PlaceStep) : definitionsOf rules place (.list definitions) = .ok written := by
  refine (Checked.placed_bind (rules.members_list _) _).trans ?_
  refine Checked.each_eq_ok (List.forall₂_map_right_iff.mpr ?_) 0
  induction h with
  | nil => exact .nil
  | cons one _ ih =>
    obtain ⟨here, later⟩ := List.forall_mem_cons.mp reads
    exact .cons (fun i => PartitionDefinition.ofValue_of_isWritten here one _) (ih later)

/-- Consistent options pass the checks that are made together. -/
theorem together_of_options (options : ReaderOptions) :
    together options.encoding ⟨options.selected, options.columnsDistinct⟩
      options.mergesPartitions options.definitions options.keepsImages = .ok options := by
  rw [together, dif_pos options.mergesSome, dif_pos options.partitionsDistinct]

/-- Keys and values that write options are accepted as these options, if their encoding is found
under its name and their patterns are read from their texts. -/
theorem ofRaw_of_isWritten
    (found : rules.encodings.find? options.encoding.name = some options.encoding)
    (reads : ∀ definition ∈ options.definitions, definition.ReadsBy rules)
    (h : options.IsWritten spell definitions raw) : ofRaw rules raw = .ok options := by
  have encoding : option raw ("textEncoding", "text_encoding") .utf8 (encodingOf rules) =
      .ok options.encoding := by
    rw [h.option_eq (by simp [spellings]) (.text options.encoding.name)
      (by simp [spellings, values])]
    exact encodingOf_name found _
  have selected : option raw ("selectedColumns", "selected_columns") .all (columnsOf rules) =
      .ok ⟨options.selected, options.columnsDistinct⟩ := by
    rw [h.option_eq (by simp [spellings]) (columnsValue options.selected)
      (by simp [spellings, values])]
    exact columnsOf_columnsValue options.columnsDistinct _
  have merges : option raw ("mergePartitions", "merge_partitions") false (truthOf rules) =
      .ok options.mergesPartitions := by
    rw [h.option_eq (by simp [spellings]) (.bool options.mergesPartitions)
      (by simp [spellings, values])]
    exact truthOf_bool _ _
  have defined : option raw ("partitionDefinitions", "partition_definitions") []
      (definitionsOf rules) = .ok options.definitions := by
    rw [h.option_eq (by simp [spellings]) (.list definitions)
      (by simp [spellings, values])]
    exact definitionsOf_of_isWritten reads h.defined _
  have images : option raw ("binarySignaturePassthrough", "binary_signature_passthrough") false
      (truthOf rules) = .ok options.keepsImages := by
    rw [h.option_eq (by simp [spellings]) (.bool options.keepsImages)
      (by simp [spellings, values])]
    exact truthOf_bool _ _
  have known : spellings.filterMap (keyIn raw) = spellings.map spell := by
    rw [← List.filterMap_eq_map]
    exact List.filterMap_congr fun spelling member => h.keyIn_eq member
  have unknown := Checked.without_filterMap_eq_ok raw
    (fun entry =>
      if (spellings.filterMap (keyIn raw)).contains entry.1 then none
      else some ⟨[.key entry.1], .unknownKey⟩) fun entry member => by
    have key : entry.1 ∈ spellings.map spell := h.keys_perm.mem_iff.mp (List.mem_map_of_mem member)
    rw [known, if_pos (List.contains_iff_mem.mpr key)]
  rw [ofRaw, encoding, selected, merges, defined, images, unknown]
  exact options.together_of_options

/-- The selected columns are those that the value lists, by the texts of its members. -/
theorem columnsOf_eq_ok {place : List PlaceStep} {value : Value} {selection : Selection}
    (h : columnsOf rules place value = .ok selection) :
    (value = .null ∧ selection.1 = none) ∨
      ∃ members names, rules.members value = .ok members ∧ selection.1 = some names ∧
        List.Forall₂ (fun name member => rules.text member = .ok name) names members := by
  rw [columnsOf.eq_def] at h
  split at h
  case h_1 =>
    injection h with same
    exact .inl ⟨rfl, same ▸ rfl⟩
  case h_2 =>
    obtain ⟨members, listed, h⟩ := Checked.bind_eq_ok h
    obtain ⟨names, texts, h⟩ := Checked.bind_eq_ok h
    split at h
    case h_2 => contradiction
    injection h with same
    refine .inr ⟨members, names, Checked.placed_eq_ok_iff.mp listed, same ▸ rfl, ?_⟩
    exact (Checked.forall₂_of_each_eq_ok texts).imp fun name member ⟨_, read⟩ =>
      Checked.placed_eq_ok_iff.mp read

/-- The definitions are those that the value lists: their patterns are what rules read their texts
as, and each has the name that its member names. -/
theorem definitionsOf_eq_ok {place : List PlaceStep} {value : Value}
    {found : List PartitionDefinition} (h : definitionsOf rules place value = .ok found) :
    (∀ definition ∈ found, definition.ReadsBy rules) ∧
      ∃ members, rules.members (PartitionDefinition.withBareNames value) = .ok members ∧
        List.Forall₂ (fun definition member =>
          ∃ named, PartitionDefinition.nameValue? member = some named ∧
            rules.text named = .ok definition.name) found members := by
  obtain ⟨members, listed, read⟩ := Checked.bind_eq_ok h
  obtain ⟨reads, named⟩ := (List.forall₂_and_left _ _).mp
    ((Checked.forall₂_of_each_eq_ok read).imp fun definition member ⟨_, one⟩ =>
      PartitionDefinition.ofValue_eq_ok one)
  exact ⟨reads, members, Checked.placed_eq_ok_iff.mp listed, named⟩

/-- The patterns of accepted options are what rules read their texts as. -/
theorem readsBy_of_accepted (accepted : ofRaw rules raw = .ok options) :
    ∀ definition ∈ options.definitions, definition.ReadsBy rules := by
  obtain ⟨_, _, _, defined, _⟩ := ofRaw_eq_ok accepted
  cases given : given? raw ("partitionDefinitions", "partition_definitions") with
  | none =>
    rw [option_of_not_given given] at defined
    injection defined with same
    simp [← same]
  | some value =>
    obtain ⟨key, checked⟩ := option_of_given given [] (definitionsOf rules)
    exact (definitionsOf_eq_ok (checked ▸ defined)).1

/-- Accepted options select the columns and name the partitions that the caller lists, each of them
once and no partition by the empty name. Every pattern of theirs reads as a pattern with a group,
and they merge partitions only if there are any. Whoever writes them back, under either spelling of
each key, in any order and with or without a mapping for a definition that has no pattern, has them
accepted again as they are. -/
theorem accepted_written_back (accepted : ofRaw rules raw = .ok options) :
    (∀ value, given? raw ("selectedColumns", "selected_columns") = some value →
      (value = .null ∧ options.selected = none) ∨
        ∃ members names, rules.members value = .ok members ∧ options.selected = some names ∧
          List.Forall₂ (fun name member => rules.text member = .ok name) names members) ∧
    (∀ value, given? raw ("partitionDefinitions", "partition_definitions") = some value →
      ∃ members, rules.members (PartitionDefinition.withBareNames value) = .ok members ∧
        List.Forall₂ (fun name member =>
          ∃ named, PartitionDefinition.nameValue? member = some named ∧
            rules.text named = .ok name) options.partitionNames members) ∧
    (options.selected.getD []).Nodup ∧
    options.partitionNames.Nodup ∧ "" ∉ options.partitionNames ∧
    (∀ definition ∈ options.definitions, ∀ pattern, definition.pattern = some pattern →
      ∃ body groups,
        Pattern.ofText rules.characters pattern.text = .ok (body, groups) ∧ 0 < groups) ∧
    (options.mergesPartitions = true → options.definitions ≠ []) ∧
    ∀ spell definitions written, options.IsWritten spell definitions written →
      ofRaw rules written = .ok options := by
  obtain ⟨_, selected, _, defined, _⟩ := ofRaw_eq_ok accepted
  have reads := readsBy_of_accepted accepted
  refine ⟨fun value given => ?_, fun value given => ?_, options.columnsDistinct,
    options.partitionsDistinct, fun member => ?_, fun definition member pattern written => ?_,
    options.mergesSome, fun _ _ _ => ofRaw_of_isWritten (find?_encoding accepted) reads⟩
  · obtain ⟨key, checked⟩ := option_of_given given Selection.all (columnsOf rules)
    exact columnsOf_eq_ok (checked ▸ selected)
  · obtain ⟨key, checked⟩ := option_of_given given [] (definitionsOf rules)
    obtain ⟨_, members, listed, named⟩ := definitionsOf_eq_ok (checked ▸ defined)
    exact ⟨members, listed, List.forall₂_map_left_iff.mpr named⟩
  · obtain ⟨definition, _, unnamed⟩ := List.mem_map.mp member
    exact definition.named unnamed
  · obtain ⟨_, read⟩ := PathPattern.ofText_eq_ok_iff.mp (reads definition member pattern written)
    exact ⟨pattern.body, pattern.groups, read, pattern.capturing⟩

/-- A day after a letter. -/
def dayPattern : PathPattern where
  text := "d(\\d+)"
  body := .sequence (.one ⟨[.range 100 100], false, .distinct⟩)
    (.capture 1 (.repetition 1 none true (.one ⟨[.named .digit false false], false, .distinct⟩)))
  groups := 1
  readable := ⟨CharName.code?, rfl⟩
  capturing := Nat.one_pos

/-- Two columns of trips, with the season and the day of their directories. -/
def tripOptions : ReaderOptions where
  encoding := Codec.latin1.encoding
  selected := some ["id", "city"]
  mergesPartitions := true
  definitions := [⟨"season", none, by decide⟩, ⟨"day", some dayPattern, by decide⟩]
  keepsImages := false
  columnsDistinct := by decide
  partitionsDistinct := by decide
  mergesSome := by simp

/-- The options as a caller may give them. -/
def tripsAsked : RawOptions :=
  [("mergePartitions", .text "Yes"), ("text_encoding", .text "Latin-1"),
   ("selectedColumns", .list [.text "id", .text "city"]),
   ("partition_definitions", .list [.text "season",
     .map [(.text "name", .text "day"), (.text "pattern", .text "d(\\d+)")]])]

/-- Definitions of trips as mappings, the pattern of the day before its name. -/
def tripDefinitions : List Value :=
  [.map [(.text "name", .text "season")],
   .map [(.text "pattern", .text "d(\\d+)"), (.text "name", .text "day")]]

/-- The options as they are written back, in other spellings and another order. -/
def tripsWritten : RawOptions :=
  [("binary_signature_passthrough", .bool false), ("partitionDefinitions", .list tripDefinitions),
   ("merge_partitions", .bool true), ("selected_columns", .list [.text "id", .text "city"]),
   ("textEncoding", .text "iso8859-1")]

/-- The spelling of each key in what is written back. -/
def tripSpelling (spelling : String × String) : String :=
  if spelling.1 = "textEncoding" ∨ spelling.1 = "partitionDefinitions" then spelling.1
  else spelling.2

/-- The options of trips are accepted as they are asked for, and again as they are written back. -/
theorem accepted_written_back_trips :
    ofRaw .standard tripsAsked = .ok tripOptions ∧
      tripOptions.IsWritten tripSpelling tripDefinitions tripsWritten ∧
      ofRaw .standard tripsWritten = .ok tripOptions := by
  have accepted : ofRaw .standard tripsAsked = .ok tripOptions := by rfl
  obtain ⟨_, _, _, _, _, _, _, again⟩ := accepted_written_back accepted
  have defined : List.Forall₂ PartitionDefinition.IsWritten tripOptions.definitions
      tripDefinitions := .cons (.named rfl) (.cons (.whole (.swap _ _ _)) .nil)
  have written : tripOptions.IsWritten tripSpelling tripDefinitions tripsWritten := by
    refine ⟨fun spelling => ?_, defined, ?_⟩
    · rw [tripSpelling]
      split
      · exact .inl rfl
      · exact .inr rfl
    · exact (List.reverse_perm tripsWritten).symm
  exact ⟨accepted, written, again _ _ _ written⟩

end ReaderOptions

end OrcRows
