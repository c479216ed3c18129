import OrcRows.Proofs.Cell.Breakdowns
import OrcRows.Proofs.Cell.Matching
import OrcRows.Proofs.Table.Elements

/-!
# Vectors that fit together

A vector is sound for a declared type if both have one shape, every row has its place in storage,
and slices, tags and rows of branches designate something. Reading a row of a sound vector never
asks for a position that is not there and never finds parts that do not fit, whatever type and text
policy it is read under.
-/

namespace OrcRows

open Outcome

/-- A row for every flag, and the vector has nulls exactly if a flag is set. -/
structure RowFlags.IsExact (flags : RowFlags) : Prop where
  /-- The rows stand for themselves. -/
  notRepeating : flags.isRepeating = false
  /-- There are no nulls if no flag is set. -/
  noNulls_iff : flags.noNulls = true ↔ true ∉ flags.isNull

/-- Leaf storage has a number of rows. -/
def LeafCells.HasRows (rows : Nat) : LeafCells → Prop
  | long values => values.length = rows
  | double values => values.length = rows
  | bytes values => values.length = rows
  | decimal values => values.length = rows
  | timestamp millis nanos => millis.length = rows ∧ nanos.length = rows

/-- Offsets and lengths of a number of rows: offsets ascend, and each slice has room among the
children. -/
structure AreSlices (offsets lengths : List Int) (rows room : Nat) : Prop where
  /-- There is an offset for every row. -/
  offset_rows : offsets.length = rows
  /-- There is a length for every row. -/
  length_rows : lengths.length = rows
  /-- No offset is below an earlier one. -/
  ascending : offsets.Pairwise (· ≤ ·)
  /-- Each slice lies among the children. -/
  inside : ∀ row, row < rows → ∃ first count : Nat, offsets[row]? = some (first : Int) ∧
    lengths[row]? = some (count : Int) ∧ first + count ≤ room

namespace ColumnVector

/-- The number of rows of a vector. -/
def rows (vector : ColumnVector) : Nat := vector.flags.isNull.length

/-- Tags designate branches, and rows designate rows of these: the row that is addressed, or the
same row in branches of as many rows. -/
structure AreTargets (tags : List Int) (branches : List ColumnVector) (offsets : Option (List Int))
    (rows : Nat) : Prop where
  /-- There is a tag for every row. -/
  tag_rows : tags.length = rows
  /-- Each tag is the place of a branch. -/
  tagged : ∀ tag ∈ tags, ∃ place : Nat, tag = place ∧ place < branches.length
  /-- Without offsets, the branches have the rows of the union. -/
  sparse : offsets = none → ∀ branch ∈ branches, branch.rows = rows
  /-- There is an offset for every row, if there are any. -/
  offset_rows : ∀ targets, offsets = some targets → targets.length = rows
  /-- Each offset lies in the branch of its row. -/
  dense : ∀ targets, offsets = some targets → ∀ (row place : Nat) (branch : ColumnVector),
    tags[row]? = some (place : Int) → branches[place]? = some branch →
    ∃ target : Nat, targets[row]? = some (target : Int) ∧ target < branch.rows

/-- A vector fits a declared type at every node: it is of the kind of the category and has a vector
for every child, its storage has its rows, its slices and targets lie in the children, and fields
have its rows. -/
inductive IsSound : ColumnVector → NativeType → Prop
  | leaf {flags : RowFlags} {cells : LeafCells} {declared : NativeType} (exact : flags.IsExact)
      (kind : cells.IsKindOf declared.category) (childless : declared.children = [])
      (stored : cells.HasRows flags.isNull.length) : IsSound (leaf flags cells) declared
  | list {flags : RowFlags} {offsets lengths : List Int} {child : ColumnVector}
      {declared element : NativeType} (exact : flags.IsExact) (kind : declared.category = .list)
      (parts : declared.children = [element])
      (slices : AreSlices offsets lengths flags.isNull.length child.rows)
      (inner : IsSound child element) :
      IsSound (list flags offsets lengths (some child)) declared
  | map {flags : RowFlags} {offsets lengths : List Int} {keys values : ColumnVector}
      {declared key value : NativeType} (exact : flags.IsExact) (kind : declared.category = .map)
      (parts : declared.children = [key, value])
      (slices : AreSlices offsets lengths flags.isNull.length keys.rows)
      (paired : values.rows = keys.rows) (innerKey : IsSound keys key)
      (innerValue : IsSound values value) :
      IsSound (map flags offsets lengths (some keys) (some values)) declared
  | struct {flags : RowFlags} {fields : List ColumnVector} {declared : NativeType}
      (exact : flags.IsExact) (kind : declared.category = .struct)
      (width : fields.length = declared.children.length)
      (rows : ∀ field ∈ fields, field.rows = flags.isNull.length)
      (inner : ∀ (place : Nat) (field : ColumnVector) (type : NativeType),
        fields[place]? = some field → declared.children[place]? = some type → IsSound field type) :
      IsSound (struct flags fields) declared
  | union {flags : RowFlags} {tags : List Int} {branches : List ColumnVector}
      {offsets : Option (List Int)} {declared : NativeType} (exact : flags.IsExact)
      (kind : declared.category = .union) (width : branches.length = declared.children.length)
      (targets : AreTargets tags branches offsets flags.isNull.length)
      (inner : ∀ (place : Nat) (branch : ColumnVector) (type : NativeType),
        branches[place]? = some branch → declared.children[place]? = some type →
        IsSound branch type) :
      IsSound (union flags tags branches offsets) declared

end ColumnVector

namespace NativeType

/-- The texts of types are those of each of them. -/
theorem texts_eq_map (types : List NativeType) : texts types = types.map text? := by
  induction types with
  | nil => rfl
  | cons type types ih => rw [texts, List.map_cons, ih]

/-- A type that leaf storage is read under has a text. -/
theorem exists_text_of_isKindOf {declared : NativeType} {cells : LeafCells}
    (kind : cells.IsKindOf declared.category) : ∃ text, declared.text? = some text := by
  obtain ⟨category, children, fieldNames, precision, scale⟩ := declared
  rw [text?.eq_def]
  cases category with
  | list | map | struct | union => cases cells <;> contradiction
  | _ => exact ⟨_, rfl⟩

/-- A list type has a text if its element has one. -/
theorem exists_text_of_list {declared element : NativeType} (kind : declared.category = .list)
    (parts : declared.children = [element]) (inner : ∃ text, element.text? = some text) :
    ∃ text, declared.text? = some text := by
  obtain ⟨category, children, fieldNames, precision, scale⟩ := declared
  obtain rfl : category = .list := kind
  obtain rfl : children = [element] := parts
  obtain ⟨text, ht⟩ := inner
  exact ⟨_, by rw [text?.eq_def]; simp only [texts, ht]; rfl⟩

/-- A map type has a text if its key and its value have one. -/
theorem exists_text_of_map {declared key value : NativeType} (kind : declared.category = .map)
    (parts : declared.children = [key, value]) (innerKey : ∃ text, key.text? = some text)
    (innerValue : ∃ text, value.text? = some text) : ∃ text, declared.text? = some text := by
  obtain ⟨category, children, fieldNames, precision, scale⟩ := declared
  obtain rfl : category = .map := kind
  obtain rfl : children = [key, value] := parts
  obtain ⟨keyText, hk⟩ := innerKey
  obtain ⟨valueText, hv⟩ := innerValue
  exact ⟨_, by rw [text?.eq_def]; simp only [texts, hk, hv]; rfl⟩

/-- A struct type has a text if every field has one. -/
theorem exists_text_of_struct {declared : NativeType} (kind : declared.category = .struct)
    (inner : ∀ type ∈ declared.children, ∃ text, type.text? = some text) :
    ∃ text, declared.text? = some text := by
  obtain ⟨category, children, fieldNames, precision, scale⟩ := declared
  obtain rfl : category = .struct := kind
  have shown : ∀ field ∈ fieldNames.zip (texts children),
      ∃ text, field.2.map (field.1 ++ ":" ++ ·) = some text := by
    intro field member
    obtain ⟨type, htype, same⟩ := List.mem_map.mp
      (texts_eq_map children ▸ (List.of_mem_zip member).2)
    obtain ⟨text, ht⟩ := inner type htype
    exact ⟨_, by rw [← same, ht]; rfl⟩
  obtain ⟨all, hall⟩ := exists_mapM_eq_some shown
  rw [text?.eq_def]
  exact ⟨_, Option.bind_eq_some_iff.mpr ⟨all, hall, rfl⟩⟩

/-- A union type has a text if every branch has one. -/
theorem exists_text_of_union {declared : NativeType} (kind : declared.category = .union)
    (inner : ∀ type ∈ declared.children, ∃ text, type.text? = some text) :
    ∃ text, declared.text? = some text := by
  obtain ⟨category, children, fieldNames, precision, scale⟩ := declared
  obtain rfl : category = .union := kind
  obtain ⟨all, hall⟩ : ∃ all, (texts children).mapM id = some all := by
    refine exists_mapM_eq_some fun part member => ?_
    obtain ⟨type, htype, rfl⟩ := List.mem_map.mp (texts_eq_map children ▸ member)
    exact inner type htype
  exact ⟨_, by rw [text?.eq_def]; simp only [hall]; rfl⟩

end NativeType

namespace ColumnVector

/-- A type at a place of as many types as there are vectors has a vector at its place. -/
theorem exists_at_place {vectors : List ColumnVector} {types : List NativeType}
    (width : vectors.length = types.length) {type : NativeType} (member : type ∈ types) :
    ∃ (place : Nat) (vector : ColumnVector), vectors[place]? = some vector ∧
      types[place]? = some type := by
  obtain ⟨place, inside, rfl⟩ := List.mem_iff_getElem.mp member
  have inside' : place < vectors.length := width ▸ inside
  exact ⟨place, _, List.getElem?_eq_getElem inside', List.getElem?_eq_getElem inside⟩

/-- A type that a vector is sound for has a text. -/
theorem IsSound.exists_text {vector : ColumnVector} {declared : NativeType}
    (sound : vector.IsSound declared) : ∃ text, declared.text? = some text := by
  induction sound with
  | leaf _ kind => exact NativeType.exists_text_of_isKindOf kind
  | list _ kind parts _ _ ih => exact NativeType.exists_text_of_list kind parts ih
  | map _ kind parts _ _ _ _ ihKey ihValue =>
    exact NativeType.exists_text_of_map kind parts ihKey ihValue
  | struct _ kind width _ _ ih =>
    refine NativeType.exists_text_of_struct kind fun type member => ?_
    obtain ⟨place, field, hfield, htype⟩ := exists_at_place width member
    exact ih place field type hfield htype
  | union _ kind width _ _ ih =>
    refine NativeType.exists_text_of_union kind fun type member => ?_
    obtain ⟨place, branch, hbranch, htype⟩ := exists_at_place width member
    exact ih place branch type hbranch htype

end ColumnVector

/-- A position that designates nothing, or a report that parts do not fit together. -/
def Fault.IsMisfit : Fault → Prop
  | .reported report => report.kind = .illegalArgument
  | .broken cause => cause = .outOfRange

namespace Outcome

variable {α β : Type} {outcome : Outcome α}

/-- An outcome without a fault, or with one that is not about parts and positions. -/
def Fits (outcome : Outcome α) : Prop :=
  outcome.Ends (fun fault => ¬ fault.IsMisfit) fun _ => True

/-- A value is no fault. -/
theorem fits_ok (value : α) : Fits (.ok value) := trivial

/-- What goes on after an outcome may fit in its turn. -/
theorem Fits.bind {next : α → Outcome β} (h : outcome.Fits) (hn : ∀ value, (next value).Fits) :
    (outcome >>= next).Fits :=
  Ends.bind h fun value _ => hn value

/-- Mapping adds no fault. -/
theorem Fits.map {f : α → β} (h : outcome.Fits) : Fits (outcome.map f) :=
  Ends.map h fun _ _ => trivial

/-- A report of another kind is not about parts that do not fit. -/
theorem fits_report {kind : ReportKind} (differ : kind ≠ .illegalArgument) (message : String)
    (facts : List (String × Value)) :
    Fits (.error (.report kind message facts) : Outcome α) := by
  intro misfit
  have kept := (Report.addContext_kind_message ⟨kind, message, []⟩ facts).1
  exact differ (kept.symm.trans misfit)

end Outcome

/-- A breakdown by another cause is not about positions. -/
theorem not_isMisfit_broken (cause : Breakdown) (differ : cause ≠ .outOfRange) :
    ¬ (Fault.broken cause).IsMisfit := differ

/-- A row of storage designates an entry. -/
theorem exists_get? {α : Type} {entries : List α} {rows row : Nat} (length : entries.length = rows)
    (inside : row < rows) : ∃ entry, Position.get? entries row = some entry :=
  ⟨_, List.getElem?_eq_getElem (length ▸ inside)⟩

/-- A row of exact flags is its own place in storage. -/
theorem RowFlags.IsExact.index {flags : RowFlags} (exact : flags.IsExact) (row : Int) :
    flags.index row = row := by
  rw [RowFlags.index, exact.notRepeating]
  rfl

/-- A row has a slice among the children. -/
theorem AreSlices.exists_slice {flags : RowFlags} {offsets lengths : List Int}
    {rows room row : Nat} (slices : AreSlices offsets lengths rows room) (exact : flags.IsExact)
    (inside : row < rows) :
    ∃ first count : Nat, slice flags offsets lengths row = .ok ((first : Int), (count : Int)) ∧
      first + count ≤ room := by
  obtain ⟨first, count, ho, hl, room⟩ := slices.inside row inside
  refine ⟨first, count, slice_eq_ok ?_ ?_, room⟩
  · rw [exact.index, Position.get?_ofNat, ho]
  · rw [exact.index, Position.get?_ofNat, hl]

/-- A row of exact flags is null or is not. -/
theorem RowFlags.IsExact.exists_nullAt {flags : RowFlags} (exact : flags.IsExact) {row : Nat}
    (inside : row < flags.isNull.length) : ∃ flag, flags.nullAt row = .ok flag := by
  obtain ⟨flag, hflag⟩ := exists_get? rfl inside
  rw [RowFlags.nullAt, exact.index, hflag]
  split
  · exact ⟨false, rfl⟩
  · exact ⟨flag, rfl⟩

section Leaf

/-- An integer has a value in its category, or none in the calendar. -/
theorem fits_longValue (category : Category) (value : Int) : (longValue category value).Fits := by
  rw [longValue.eq_def]
  split
  case h_5 =>
    split
    · exact fits_ok _
    · exact fits_report (by decide) _ _
  all_goals exact fits_ok _

/-- A timestamp has a value, or none in the calendar. -/
theorem fits_timestampValue (category : Category) (unified : Option UnifiedType)
    (millis nanos : Int) : (timestampValue category unified millis nanos).Fits := by
  rw [timestampValue]
  split
  · exact fits_report (by decide) _ _
  · split
    · exact fits_ok _
    · split
      · exact fits_ok _
      · exact fits_ok _

variable {policy : TextPolicy} {category : Category} {unified : Option UnifiedType}

/-- Storage that has a row has its value. -/
theorem LeafCells.HasRows.fits_value {cells : LeafCells} {rows row : Nat}
    (stored : cells.HasRows rows) (inside : row < rows) :
    (cells.value policy category unified row).Fits := by
  cases cells with
  | long values =>
    obtain ⟨value, hv⟩ := exists_get? stored inside
    simp only [LeafCells.value, hv, ofOption_some, ok_bind]
    exact fits_longValue category value
  | double values =>
    obtain ⟨value, hv⟩ := exists_get? stored inside
    simp only [LeafCells.value, hv, ofOption_some]
    exact fits_ok _
  | bytes values =>
    obtain ⟨value, hv⟩ := exists_get? stored inside
    simp only [LeafCells.value, hv, ofOption_some, ok_bind]
    exact elsewhere_bytesValue not_isMisfit_broken policy category value
  | decimal values =>
    obtain ⟨value, hv⟩ := exists_get? stored inside
    simp only [LeafCells.value, hv, ofOption_some, ok_bind]
    exact (elsewhere_ofOption not_isMisfit_broken (by decide) _).bind fun _ _ => trivial
  | timestamp millis nanos =>
    obtain ⟨milli, hm⟩ := exists_get? stored.1 inside
    obtain ⟨nano, hn⟩ := exists_get? stored.2 inside
    simp only [LeafCells.value, hm, hn, ofOption_some, ok_bind]
    exact fits_timestampValue category unified milli nano

end Leaf

namespace ColumnVector

variable {policy : TextPolicy}

/-- Every row of a vector is read without a misfit under a declared type. -/
def FitsAt (policy : TextPolicy) (vector : ColumnVector) (declared : NativeType) : Prop :=
  ∀ (unified : Option UnifiedType) (row : Nat), row < vector.rows →
    (vector.cell policy declared unified row).Fits

/-- Exact flags leave the rows that are not null. -/
theorem fitsAt_of_present {vector : ColumnVector} {declared : NativeType}
    (exact : vector.flags.IsExact)
    (h : ∀ (unified : Option UnifiedType) (row : Nat), row < vector.rows →
      vector.flags.nullAt row = .ok false → (vector.cell policy declared unified row).Fits) :
    vector.FitsAt policy declared := by
  intro unified row inside
  obtain ⟨flag, hflag⟩ := exact.exists_nullAt inside
  cases flag with
  | true =>
    rw [cell_null hflag]
    exact fits_ok _
  | false => exact h unified row inside hflag

/-- A leaf vector is read where it has rows. -/
theorem fitsAt_leaf {flags : RowFlags} {cells : LeafCells} {declared : NativeType}
    (exact : flags.IsExact) (stored : cells.HasRows flags.isNull.length) :
    (leaf flags cells).FitsAt policy declared := by
  refine fitsAt_of_present exact fun unified row inside hflag => ?_
  rw [cell_leaf hflag, leafCell, exact.index]
  exact (stored.fits_value inside).bind fun value =>
    elsewhere_present not_isMisfit_broken policy declared.category value unified

/-- The elements of a slice among the rows of a vector are read. -/
theorem FitsAt.elements {child : ColumnVector} {declared : NativeType}
    (h : child.FitsAt policy declared) (text : ∃ text, declared.text? = some text)
    {first count : Nat} (inside : first + count ≤ child.rows) (container : String)
    (unified : Option UnifiedType) :
    (elements policy container child declared unified ((first : Int), (count : Int))).Fits := by
  rw [OrcRows.elements.eq_def]
  -- Elements of any other kind of child are reported as unsupported, which needs the type's text.
  split
  case h_1 flags cells =>
    have fits : ∀ row, (first : Int) ≤ row → row < first + count →
        (elementCell policy flags cells declared unified row).Fits := by
      intro row low high
      obtain ⟨place, rfl⟩ := Int.eq_ofNat_of_zero_le (show 0 ≤ row by omega)
      rw [elementCell_eq_cell]
      exact h unified place (by omega)
    exact (ends_readRows fits).mono fun _ _ => trivial
  case h_2 =>
    obtain ⟨text, ht⟩ := text
    rw [typeFact, ht]
    exact fits_report (by decide) _ _

/-- A list vector is read where its slices lie in its child. -/
theorem fitsAt_list {flags : RowFlags} {offsets lengths : List Int} {child : ColumnVector}
    {declared element : NativeType} (exact : flags.IsExact) (kind : declared.category = .list)
    (parts : declared.children = [element])
    (slices : AreSlices offsets lengths flags.isNull.length child.rows)
    (text : ∃ text, element.text? = some text) (inner : child.FitsAt policy element) :
    (list flags offsets lengths (some child)).FitsAt policy declared := by
  refine fitsAt_of_present exact fun unified row inside hflag => ?_
  obtain ⟨first, count, hslice, room⟩ := slices.exists_slice exact inside
  have helement : declared.child 0 = .ok element := by rw [NativeType.child, parts]; rfl
  rw [cell_list hflag kind, listCell, helement, hslice]
  exact (inner.elements text room _ _).bind fun _ => fits_ok _

/-- A map vector is read where its slices lie in its keys and values. -/
theorem fitsAt_map {flags : RowFlags} {offsets lengths : List Int} {keys values : ColumnVector}
    {declared key value : NativeType} (exact : flags.IsExact) (kind : declared.category = .map)
    (parts : declared.children = [key, value])
    (slices : AreSlices offsets lengths flags.isNull.length keys.rows)
    (paired : values.rows = keys.rows) (text : ∃ text, declared.text? = some text)
    (textKey : ∃ text, key.text? = some text) (textValue : ∃ text, value.text? = some text)
    (innerKey : keys.FitsAt policy key) (innerValue : values.FitsAt policy value) :
    (map flags offsets lengths (some keys) (some values)).FitsAt policy declared := by
  refine fitsAt_of_present exact fun unified row inside hflag => ?_
  obtain ⟨first, count, hslice, room⟩ := slices.exists_slice exact inside
  have hkey : declared.child 0 = .ok key := by rw [NativeType.child, parts]; rfl
  have hvalue : declared.child 1 = .ok value := by rw [NativeType.child, parts]; rfl
  rw [cell_map hflag kind, mapCell.eq_def]
  split
  case h_1 sameKeys sameValues =>
    injection sameKeys with sameKeys
    injection sameValues with sameValues
    subst sameKeys sameValues
    rw [hslice, hkey, hvalue]
    refine (innerKey.elements textKey room _ _).bind fun keyList => ?_
    exact (innerValue.elements textValue (paired.symm ▸ room) _ _).bind fun valueList => fits_ok _
  case h_2 =>
    obtain ⟨text, ht⟩ := text
    rw [typeFact, ht]
    exact fits_report (by decide) _ _

/-- The cells of fields are read where each of them is. -/
theorem fits_fieldCells {fields : List ColumnVector} {types : List NativeType} {row : Nat}
    (width : fields.length = types.length) (rows : ∀ field ∈ fields, row < field.rows)
    (inner : ∀ (place : Nat) (field : ColumnVector) (type : NativeType),
      fields[place]? = some field → types[place]? = some type → field.FitsAt policy type)
    (unifieds : List UnifiedType) :
    (fieldCells policy fields types unifieds row).Fits := by
  induction fields generalizing types unifieds with
  | nil =>
    rw [fieldCells.eq_def]
    exact fits_ok _
  | cons field fields ih =>
    obtain ⟨type, types, rfl⟩ := List.exists_cons_of_length_eq_add_one width.symm
    obtain ⟨rowsHead, rowsRest⟩ := List.forall_mem_cons.mp rows
    rw [fieldCells_cons]
    refine (inner 0 field type rfl rfl unifieds.head? row rowsHead).bind fun value => ?_
    refine (ih (by simpa using width) rowsRest (fun place field type hf ht =>
      inner (place + 1) field type hf ht) unifieds.tail).bind fun values => fits_ok _

/-- A struct vector is read where its fields have its rows. -/
theorem fitsAt_struct {flags : RowFlags} {fields : List ColumnVector} {declared : NativeType}
    (exact : flags.IsExact) (kind : declared.category = .struct)
    (width : fields.length = declared.children.length)
    (rows : ∀ field ∈ fields, field.rows = flags.isNull.length)
    (inner : ∀ (place : Nat) (field : ColumnVector) (type : NativeType),
      fields[place]? = some field → declared.children[place]? = some type →
      field.FitsAt policy type) :
    (struct flags fields).FitsAt policy declared := by
  refine fitsAt_of_present exact fun unified row inside hflag => ?_
  rw [cell_struct hflag kind width.le]
  refine (fits_fieldCells width (fun field member => ?_) inner _).map
  rw [rows field member]
  exact inside

/-- A union vector is read where its tags and offsets designate rows of its branches. -/
theorem fitsAt_union {flags : RowFlags} {tags : List Int} {branches : List ColumnVector}
    {offsets : Option (List Int)} {declared : NativeType} (exact : flags.IsExact)
    (kind : declared.category = .union) (width : branches.length = declared.children.length)
    (targets : AreTargets tags branches offsets flags.isNull.length)
    (inner : ∀ (place : Nat) (branch : ColumnVector) (type : NativeType),
      branches[place]? = some branch → declared.children[place]? = some type →
      branch.FitsAt policy type) :
    (union flags tags branches offsets).FitsAt policy declared := by
  refine fitsAt_of_present exact fun unified row inside hflag => ?_
  obtain ⟨tag, htag⟩ : ∃ tag, tags[row]? = some tag := exists_get? targets.tag_rows inside
  obtain ⟨place, rfl, hplace⟩ := targets.tagged tag (List.mem_of_getElem? htag)
  have hbranch : branches[place]? = some branches[place] := List.getElem?_eq_getElem hplace
  have htype : declared.children[place]? = some declared.children[place] :=
    List.getElem?_eq_getElem (width ▸ hplace)
  obtain ⟨target, htarget, room⟩ : ∃ target : Nat,
      branchRow flags offsets row = .ok (target : Int) ∧ target < branches[place].rows := by
    -- Without offsets the row is its own target, and every branch has it.
    cases offsets with
    | none =>
      have rows := targets.sparse rfl branches[place] (List.getElem_mem hplace)
      exact ⟨row, by rw [branchRow, exact.index], rows ▸ inside⟩
    | some known =>
      obtain ⟨target, hknown, room⟩ := targets.dense known rfl row place _ htag hbranch
      exact ⟨target, by rw [branchRow, exact.index, Position.get?_ofNat, hknown]; rfl, room⟩
  rw [cell_union hflag kind (by rw [exact.index, Position.get?_ofNat, htag]) hplace htype htarget,
    branchCell_eq hbranch]
  exact (inner place _ _ hbranch htype none target room).map

/-- Every row of a sound vector is read without a misfit. -/
theorem IsSound.fitsAt {vector : ColumnVector} {declared : NativeType}
    (sound : vector.IsSound declared) (policy : TextPolicy) : vector.FitsAt policy declared := by
  induction sound with
  | leaf exact _ _ stored => exact fitsAt_leaf exact stored
  | list exact kind parts slices inner ih =>
    exact fitsAt_list exact kind parts slices inner.exists_text ih
  | map exact kind parts slices paired innerKey innerValue ihKey ihValue =>
    have textKey := innerKey.exists_text
    have textValue := innerValue.exists_text
    exact fitsAt_map exact kind parts slices paired
      (NativeType.exists_text_of_map kind parts textKey textValue) textKey textValue ihKey ihValue
  | struct exact kind width rows _ ih => exact fitsAt_struct exact kind width rows ih
  | union exact kind width targets _ ih => exact fitsAt_union exact kind width targets ih

end ColumnVector

end OrcRows
