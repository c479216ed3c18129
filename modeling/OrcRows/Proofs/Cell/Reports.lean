import OrcRows.Proofs.Cell.Breakdowns

/-!
# What reports about cells say

A report about a cell names facts of a few kinds: categories and kinds of vectors, values out of
range, tags, numbers of parts and the row of the vector. It never says in which column, file or row
of the file the cell stands, so whoever knows can add it without being contradicted.
-/

namespace OrcRows

namespace Report

/-- Facts come from the report or from what is added. -/
theorem mem_context_addContext {report : Report} {facts : List (String × Value)}
    {fact : String × Value} (h : fact ∈ (report.addContext facts).context) :
    fact ∈ report.context ∨ fact ∈ facts := by
  induction facts generalizing report with
  | nil => exact .inl h
  | cons first rest ih =>
    rcases ih h with hf | hf
    · rw [addFact] at hf
      split at hf
      · exact .inl hf
      · split at hf
        · exact .inl hf
        · rcases List.mem_append.mp hf with hf | hf
          · exact .inl hf
          · exact .inr (List.mem_singleton.mp hf ▸ List.mem_cons_self)
    · exact .inr (List.mem_cons_of_mem _ hf)

end Report

/-- A fault that, if it is a report, names facts of some names only. -/
def Fault.Mentions (names : List String) : Fault → Prop
  | .reported report => ∀ fact ∈ report.context, fact.1 ∈ names
  | .broken _ => True

/-- A report names the facts that it is made with. -/
theorem Fault.mentions_report {names : List String} {kind : ReportKind} {message : String}
    {facts : List (String × Value)} (h : ∀ fact ∈ facts, fact.1 ∈ names) :
    (Fault.report kind message facts).Mentions names := by
  intro fact hf
  rcases Report.mem_context_addContext hf with hf | hf
  · exact absurd hf List.not_mem_nil
  · exact h fact hf

/-- The names of the facts that reports about cells may name. -/
def cellFacts : List String :=
  ["category", "value", "millis", "row", "vector_kind", "key_kind", "value_kind", "vectors",
   "fields", "branches", "tag"]

/-- An outcome without a fault, or with one that a cell may have. -/
def Outcome.AboutCell {α : Type} (outcome : Outcome α) : Prop :=
  outcome.Ends (Fault.Mentions cellFacts) fun _ => True

section Parts

variable {α β : Type}

/-- A value is no fault. -/
theorem aboutCell_ok (value : α) : Outcome.AboutCell (.ok value) := trivial

/-- A breakdown names no facts. -/
theorem Outcome.OnlyBreaks.aboutCell {outcome : Outcome α} (h : outcome.OnlyBreaks) :
    outcome.AboutCell :=
  h.ends (fun _ => trivial) fun _ _ => trivial

/-- Something missing is a breakdown. -/
theorem aboutCell_ofOption (cause : Breakdown) (value : Option α) :
    Outcome.AboutCell (Outcome.ofOption cause value) :=
  (Outcome.onlyBreaks_ofOption cause value).aboutCell

/-- A report about a cell names facts of cells. -/
theorem aboutCell_report {kind : ReportKind} {message : String} {facts : List (String × Value)}
    (h : ∀ fact ∈ facts, fact.1 ∈ cellFacts) :
    Outcome.AboutCell (.error (.report kind message facts) : Outcome α) :=
  Fault.mentions_report h

/-- What goes on after an outcome may add its own fault. -/
theorem Outcome.AboutCell.bind {outcome : Outcome α} {next : α → Outcome β} (h : outcome.AboutCell)
    (hn : ∀ value, (next value).AboutCell) : (outcome >>= next).AboutCell :=
  Outcome.Ends.bind h fun value _ => hn value

/-- Mapping adds no fault. -/
theorem Outcome.AboutCell.map {outcome : Outcome α} {f : α → β} (h : outcome.AboutCell) :
    Outcome.AboutCell (outcome.map f) :=
  Outcome.Ends.map h fun _ _ => trivial

/-- Reports about integers name category and value. -/
theorem aboutCell_longValue (category : Category) (value : Int) :
    (longValue category value).AboutCell := by
  cases category with
  | date =>
    rw [longValue]
    split
    · exact aboutCell_ok _
    · exact aboutCell_report (by simp [cellFacts])
  | _ => exact aboutCell_ok _

/-- Reports about timestamps name category and milliseconds. -/
theorem aboutCell_timestampValue (category : Category) (unified : Option UnifiedType)
    (millis nanos : Int) : (timestampValue category unified millis nanos).AboutCell := by
  rw [timestampValue]
  split
  · exact aboutCell_report (by simp [cellFacts])
  · split
    · exact aboutCell_ok _
    · split <;> exact aboutCell_ok _

/-- Reports about what is stored name facts of cells. -/
theorem aboutCell_value (cells : LeafCells) (policy : TextPolicy) (category : Category)
    (unified : Option UnifiedType) (place : Int) :
    (cells.value policy category unified place).AboutCell := by
  cases cells with
  | long values =>
    exact (aboutCell_ofOption _ _).bind fun value => aboutCell_longValue category value
  | double values => exact (aboutCell_ofOption _ _).map
  | bytes values =>
    exact (aboutCell_ofOption _ _).bind fun value => (onlyBreaks_bytesValue _ _ _).aboutCell
  | decimal values =>
    exact (aboutCell_ofOption _ _).bind fun stored =>
      (aboutCell_ofOption _ _).bind fun value => aboutCell_ok _
  | timestamp millis nanos =>
    exact (aboutCell_ofOption _ _).bind fun milli =>
      (aboutCell_ofOption _ _).bind fun nano => aboutCell_timestampValue _ _ _ _

/-- Reports about leaf cells name facts of cells. -/
theorem aboutCell_leafCell (policy : TextPolicy) (flags : RowFlags) (cells : LeafCells)
    (declared : NativeType) (unified : Option UnifiedType) (row : Int) :
    (leafCell policy flags cells declared unified row).AboutCell :=
  (aboutCell_value ..).bind fun value =>
    (onlyBreaks_present policy declared.category value unified).aboutCell

/-- Reports about consecutive rows are those about one of them. -/
theorem aboutCell_readRows {read : Int → Outcome Value} (h : ∀ row, (read row).AboutCell)
    (first : Int) (count : Nat) : (readRows read first count).AboutCell :=
  (ends_readRows fun row _ _ => h row).mono fun _ _ => trivial

/-- The fact of a type is its category. -/
theorem ends_typeFact (declared : NativeType) :
    Outcome.Ends (Fault.Mentions cellFacts) (fun fact => fact.1 = "category")
      (typeFact declared) := by
  rw [typeFact]
  cases declared.text? with
  | none => trivial
  | some text => exact rfl

/-- Reports about elements name facts of cells. -/
theorem aboutCell_elements (policy : TextPolicy) (container : String) (child : ColumnVector)
    (declared : NativeType) (unified : Option UnifiedType) (slice : Int × Int) :
    (elements policy container child declared unified slice).AboutCell := by
  rw [elements.eq_def]
  split
  · apply aboutCell_readRows
    intro row
    refine (onlyBreaks_nullAt _ _).aboutCell.bind fun null => ?_
    split
    · exact aboutCell_ok _
    · exact aboutCell_leafCell ..
  · refine (ends_typeFact declared).bind fun fact named => aboutCell_report ?_
    simp [named, cellFacts]

/-- Reports about lists name facts of cells. -/
theorem aboutCell_listCell (policy : TextPolicy) (flags : RowFlags) (offsets lengths : List Int)
    (child : Option ColumnVector) (declared : NativeType) (unified : Option UnifiedType)
    (row : Int) :
    (listCell policy flags offsets lengths child declared unified row).AboutCell := by
  cases child with
  | none => exact aboutCell_report (by simp [cellFacts])
  | some child =>
    exact (aboutCell_ofOption _ _).bind fun element =>
      (onlyBreaks_slice ..).aboutCell.bind fun slice =>
        (aboutCell_elements ..).bind fun values => aboutCell_ok _

/-- Reports about maps name facts of cells. -/
theorem aboutCell_mapCell (policy : TextPolicy) (flags : RowFlags) (offsets lengths : List Int)
    (keys values : Option ColumnVector) (declared : NativeType) (unified : Option UnifiedType)
    (row : Int) :
    (mapCell policy flags offsets lengths keys values declared unified row).AboutCell := by
  rw [mapCell.eq_def]
  split
  · exact (onlyBreaks_slice ..).aboutCell.bind fun slice =>
      (aboutCell_ofOption _ _).bind fun keyType =>
      (aboutCell_elements ..).bind fun keyList => (aboutCell_ofOption _ _).bind fun valueType =>
        (aboutCell_elements ..).bind fun valueList => aboutCell_ok _
  · refine (ends_typeFact declared).bind fun fact named => aboutCell_report ?_
    simp [named, cellFacts]

/-- Reports about shapes name facts of cells. -/
theorem aboutCell_checkShape (vector : ColumnVector) (declared : NativeType) (row : Int) :
    (vector.checkShape declared row).AboutCell := by
  rw [ColumnVector.checkShape]
  split
  · exact aboutCell_ok _
  · split
    · exact aboutCell_ok _
    · exact aboutCell_report (by simp [cellFacts])

/-- Reports about tags name facts of cells. -/
theorem aboutCell_branchOf (tag : Int) (declared branches : Nat) (row : Int) :
    (branchOf tag declared branches row).AboutCell := by
  rw [branchOf]
  split
  · exact aboutCell_report (by simp [cellFacts])
  · split
    · exact aboutCell_report (by simp [cellFacts])
    · exact aboutCell_ok _

end Parts

mutual

/-- Reports about cells name facts of cells. -/
theorem aboutCell_cell (policy : TextPolicy) (vector : ColumnVector) (declared : NativeType)
    (unified : Option UnifiedType) (row : Int) :
    (vector.cell policy declared unified row).AboutCell := by
  rw [ColumnVector.cell.eq_def]
  refine (onlyBreaks_nullAt _ _).aboutCell.bind fun null => ?_
  split
  · exact aboutCell_ok _
  refine (aboutCell_checkShape _ _ _).bind fun _ => ?_
  cases vector with
  | leaf flags cells => exact aboutCell_leafCell ..
  | list flags offsets lengths child => exact aboutCell_listCell ..
  | map flags offsets lengths keys values => exact aboutCell_mapCell ..
  | struct flags fields =>
    simp only
    split
    · exact aboutCell_report (by simp [cellFacts])
    · exact (aboutCell_fieldCells policy fields _ _ row).bind fun values => aboutCell_ok _
  | union flags tags branches offsets =>
    exact (aboutCell_ofOption _ _).bind fun tag => (aboutCell_branchOf ..).bind fun place =>
      (aboutCell_ofOption _ _).bind fun branch =>
      (onlyBreaks_branchRow ..).aboutCell.bind fun target =>
        (aboutCell_branchCell policy branches place branch target).bind fun value =>
          aboutCell_ok _
  | untyped flags => exact aboutCell_report (by simp [cellFacts])

/-- Reports about fields name facts of cells. -/
theorem aboutCell_fieldCells (policy : TextPolicy) (fields : List ColumnVector)
    (declared : List NativeType) (types : List UnifiedType) (row : Int) :
    (ColumnVector.fieldCells policy fields declared types row).AboutCell := by
  match fields, declared with
  | [], _ =>
    rw [ColumnVector.fieldCells.eq_def]
    exact aboutCell_ok _
  | _ :: _, [] =>
    rw [ColumnVector.fieldCells.eq_def]
    exact (Outcome.onlyBreaks_broken _).aboutCell
  | field :: fields, type :: declared =>
    rw [ColumnVector.fieldCells.eq_def]
    exact (aboutCell_cell policy field type types.head? row).bind fun value =>
      (aboutCell_fieldCells policy fields declared types.tail row).bind fun values =>
        aboutCell_ok _

/-- Reports about branches name facts of cells. -/
theorem aboutCell_branchCell (policy : TextPolicy) (branches : List ColumnVector) (place : Nat)
    (declared : NativeType) (row : Int) :
    (ColumnVector.branchCell policy branches place declared row).AboutCell := by
  match branches, place with
  | [], _ =>
    rw [ColumnVector.branchCell.eq_def]
    exact (Outcome.onlyBreaks_broken _).aboutCell
  | branch :: _, 0 =>
    rw [ColumnVector.branchCell.eq_def]
    exact aboutCell_cell policy branch declared none row
  | _ :: branches, place + 1 =>
    rw [ColumnVector.branchCell.eq_def]
    exact aboutCell_branchCell policy branches place declared row

end

end OrcRows
