import OrcRows.Options.ReaderOptions

/-!
# Options that are accepted

Accepted options hold what the checks of the single options gave, and every option that is not given
has its standard value. In particular the encoding of text is the one that is found under the label
by which the caller names it, or UTF-8.
-/

namespace OrcRows

namespace Checked

/-- A check that goes on to a result had a value to go on with. -/
theorem bind_eq_ok {α β : Type} {check : Checked α} {next : α → Checked β} {result : β}
    (h : check >>= next = .ok result) : ∃ value, check = .ok value ∧ next value = .ok result := by
  cases check with
  | ok value => exact ⟨value, rfl, h⟩
  | error refusal => contradiction

/-- A value is read at a place exactly if it is read. -/
@[simp] theorem placed_eq_ok_iff {α : Type} {place : List PlaceStep} {read : Except ProblemKind α}
    {value : α} : placed place read = .ok value ↔ read = .ok value := by
  cases read <;> simp [placed, fail]

/-- A value that is read at a place is gone on with. -/
theorem placed_bind {α β : Type} {place : List PlaceStep} {read : Except ProblemKind α} {value : α}
    (h : read = .ok value) (next : α → Checked β) : placed place read >>= next = next value := by
  rw [h]
  rfl

end Checked

namespace ReaderOptions

variable {rules : OptionRules} {raw : RawOptions} {options : ReaderOptions}

/-- Options that are checked together stay as they are. -/
theorem together_eq_ok {encoding : Encoding} {selection : Selection} {merges : Bool}
    {definitions : List PartitionDefinition} {keepsImages : Bool}
    (h : together encoding selection merges definitions keepsImages = .ok options) :
    options.encoding = encoding ∧ options.selected = selection.1 ∧
      options.mergesPartitions = merges ∧ options.definitions = definitions ∧
      options.keepsImages = keepsImages := by
  rw [together] at h
  split at h
  case isFalse => contradiction
  split at h
  case isFalse => contradiction
  injection h with same
  rw [← same]
  exact ⟨rfl, rfl, rfl, rfl, rfl⟩

/-- Accepted options hold what the checks of the single options give. -/
theorem ofRaw_eq_ok (accepted : ofRaw rules raw = .ok options) :
    option raw ("textEncoding", "text_encoding") .utf8 (encodingOf rules) =
        .ok options.encoding ∧
      option raw ("selectedColumns", "selected_columns") .all (columnsOf rules) =
        .ok ⟨options.selected, options.columnsDistinct⟩ ∧
      option raw ("mergePartitions", "merge_partitions") false (truthOf rules) =
        .ok options.mergesPartitions ∧
      option raw ("partitionDefinitions", "partition_definitions") [] (definitionsOf rules) =
        .ok options.definitions ∧
      option raw ("binarySignaturePassthrough", "binary_signature_passthrough") false
        (truthOf rules) = .ok options.keepsImages := by
  obtain ⟨⟨encoding, selection, merges, definitions, images, _⟩, checked, joined⟩ :=
    Checked.bind_eq_ok accepted
  obtain ⟨hencoding, checked⟩ := Checked.both_eq_ok_iff.mp checked
  obtain ⟨hselection, checked⟩ := Checked.both_eq_ok_iff.mp checked
  obtain ⟨hmerges, checked⟩ := Checked.both_eq_ok_iff.mp checked
  obtain ⟨hdefinitions, checked⟩ := Checked.both_eq_ok_iff.mp checked
  obtain ⟨himages, _⟩ := Checked.both_eq_ok_iff.mp checked
  obtain ⟨rfl, same, rfl, rfl, rfl⟩ := together_eq_ok joined
  have selected : selection = ⟨options.selected, options.columnsDistinct⟩ := Subtype.ext same.symm
  exact ⟨hencoding, selected ▸ hselection, hmerges, hdefinitions, himages⟩

/-- The value that keys and values give to an option, if they give one. -/
def given? (raw : RawOptions) (spelling : String × String) : Option Value :=
  (keyIn raw spelling).bind fun key => raw.lookup key

/-- An option that is given is checked with the value that is given to it. -/
theorem option_of_given {α : Type} {spelling : String × String} {value : Value}
    (given : given? raw spelling = some value) (standard : α)
    (check : List PlaceStep → Value → Checked α) :
    ∃ key, option raw spelling standard check = check [.key key] value := by
  obtain ⟨key, found, looked⟩ := Option.bind_eq_some_iff.mp given
  refine ⟨key, ?_⟩
  rw [option, found]
  simp only [looked, Option.getD_some]

/-- An option that is not given has its standard value. -/
theorem option_of_not_given {α : Type} {spelling : String × String}
    (unset : given? raw spelling = none) (standard : α)
    (check : List PlaceStep → Value → Checked α) :
    option raw spelling standard check = .ok standard := by
  have absent : keyIn raw spelling = none := by
    cases found : keyIn raw spelling with
    | none => rfl
    | some key =>
      -- The key was picked because it is there, so that it has a value.
      have there : raw.any (·.1 == key) = true :=
        List.find?_some (p := fun key => raw.any (·.1 == key)) found
      obtain ⟨entry, member, same⟩ := List.any_eq_true.mp there
      have valued : (raw.lookup key).isSome = true :=
        List.lookup_isSome_iff.mpr ⟨entry, member, (BEq.comm).trans same⟩
      rw [given?, found, Option.bind_some] at unset
      rw [unset] at valued
      contradiction
  rw [option, absent]

/-- An encoding is named by a label under which it is found. -/
theorem encodingOf_eq_ok {place : List PlaceStep} {value : Value} {encoding : Encoding}
    (h : encodingOf rules place value = .ok encoding) :
    ∃ label, rules.text value = .ok label ∧ rules.encodings.find? label = some encoding := by
  obtain ⟨label, hlabel, h⟩ := Checked.bind_eq_ok h
  refine ⟨label, Checked.placed_eq_ok_iff.mp hlabel, ?_⟩
  split at h
  case isTrue => contradiction
  case isFalse =>
    split at h
    next found known =>
      injection h with same
      rw [known, same]
    next => contradiction

/-- Accepted options have the encoding that is found under the label given for it, and UTF-8 if none
is given. -/
theorem encoding_of_accepted (accepted : ofRaw rules raw = .ok options) :
    (given? raw ("textEncoding", "text_encoding") = none ∧ options.encoding = .utf8) ∨
      ∃ value label, given? raw ("textEncoding", "text_encoding") = some value ∧
        rules.text value = .ok label ∧ rules.encodings.find? label = some options.encoding := by
  obtain ⟨checked, _⟩ := ofRaw_eq_ok accepted
  cases given : given? raw ("textEncoding", "text_encoding") with
  | none =>
    rw [option_of_not_given given] at checked
    injection checked with standard
    exact .inl ⟨rfl, standard.symm⟩
  | some value =>
    obtain ⟨key, checks⟩ := option_of_given given Encoding.utf8 (encodingOf rules)
    obtain ⟨label, read, found⟩ := encodingOf_eq_ok (checks ▸ checked)
    exact .inr ⟨value, label, rfl, read, found⟩

/-- The encoding of accepted options is found under its own name. -/
theorem find?_encoding (accepted : ofRaw rules raw = .ok options) :
    rules.encodings.find? options.encoding.name = some options.encoding := by
  rcases encoding_of_accepted accepted with ⟨_, standard⟩ | ⟨_, label, _, _, found⟩
  · rw [standard]
    exact rules.encodings.find?_utf8
  · exact EncodingRegistry.find?_name found

end ReaderOptions

end OrcRows
