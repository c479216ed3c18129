import OrcRows.Proofs.Command.FirstRows
import OrcRows.Proofs.Json.Values

/-!
# The lines of printed rows as JSON texts

Every line that is printed of the first rows of a file stands for one row. If all floating-point
numbers in the row are finite, the line is a JSON text: an object whose members have exactly the
names of the schema, partitions last, each with a tree that shows its field. A number that is not
finite is printed as a word, and its line is no JSON text.
-/

namespace OrcRows

/-- A row before the first fault is one of the outcomes. -/
theorem ok_mem_of_mem_rowsBefore {outcomes : List (Outcome Value)} {row : Value}
    (h : row ∈ rowsBefore outcomes) : .ok row ∈ outcomes := by
  induction outcomes with
  | nil => exact absurd h List.not_mem_nil
  | cons first rest ih =>
    cases first with
    | error fault => exact absurd h List.not_mem_nil
    | ok given =>
      rcases List.mem_cons.mp h with rfl | later
      · exact List.mem_cons_self
      · exact List.mem_cons_of_mem _ (ih later)

namespace Command

variable {workplace : Workplace} {path : String} {limit : Nat} {options : ReaderOptions}

/-- A run that prints a line has accepted its options and come to a conclusion that prints it. -/
theorem exists_of_withOptions {choice : ColumnChoice} {encoding : String}
    {go : ReaderOptions → Outcome Conclusion} {place : Nat} {line : String}
    (printed : (withOptions workplace choice encoding go).printed[place]? = some line) :
    ∃ options conclusion,
      ReaderOptions.ofRaw workplace.rules (rawOptions choice encoding) = .ok options ∧
      go options = .ok conclusion ∧ conclusion.printed[place]? = some line := by
  have silent (fault : Fault) : (Conclusion.failure [] fault).printed[place]? ≠ some line := by
    cases fault <;> exact nofun
  rw [withOptions] at printed
  cases accepted : ReaderOptions.ofRaw workplace.rules (rawOptions choice encoding) with
  | error refusal =>
    rw [accepted] at printed
    cases refusal with
    | problems found => cases printed
    | broken cause => exact absurd printed (silent _)
  | ok options =>
    rw [accepted] at printed
    cases concluded : go options with
    | error fault =>
      simp only [concluded] at printed
      exact absurd printed (silent fault)
    | ok conclusion =>
      simp only [concluded] at printed
      exact ⟨options, conclusion, rfl, concluded, printed⟩

/-- A run that comes to a conclusion has opened its session and started its stream. -/
theorem exists_of_runHead {conclusion : Conclusion}
    (concluded : runHead workplace path limit options = .ok conclusion) :
    ∃ reading stream reading', session workplace path options = .ok reading ∧
      reading.rows none = (.ok stream, reading') := by
  cases opened : session workplace path options with
  | error fault =>
    rw [runHead, opened] at concluded
    cases concluded
  | ok reading =>
    cases started : reading.rows none with
    | mk outcome reading' =>
      cases outcome with
      | error fault =>
        rw [runHead, opened, Outcome.ok_bind, started] at concluded
        cases concluded
      | ok stream => exact ⟨reading, stream, reading', rfl, started⟩

/-- The lines of a conclusion are those of the first rows before a fault, under the schema that a
session tells. -/
theorem exists_firstLines {conclusion : Conclusion}
    (concluded : runHead workplace path limit options = .ok conclusion) :
    ∃ reading stream reading' schema, session workplace path options = .ok reading ∧
      reading.rows none = (.ok stream, reading') ∧ reading.schema.1 = .ok schema ∧
      reading'.schema = (.ok schema, reading') ∧
      conclusion.printed = firstLines schema limit (stream.expected reading'.site) := by
  obtain ⟨reading, stream, reading', opened, started⟩ := exists_of_runHead concluded
  obtain ⟨handle, _, new⟩ := exists_of_session_eq_ok opened
  have follows : reading.Follows workplace.site ⟨handle, options, none, none, none⟩ :=
    new ▸ Session.follows_start (.refl workplace.site)
  have followed := (follows.same_rows follows none).left
  rw [started] at followed
  obtain ⟨schema, _, _, _, told, _⟩ := rows_give_reference started
  have typed : reading.schema.1 = .ok schema := by
    rw [(follows.same_schema followed).outcome_eq, told]
  refine ⟨reading, stream, reading', schema, opened, started, typed, told, ?_⟩
  rw [runHead_eq opened started typed] at concluded
  simp only at concluded
  split at concluded
  · injection concluded with same
    rw [← same]
    rfl
  · rename_i fault _
    injection concluded with same
    rw [← same]
    cases fault <;> rfl

/-- Every line that is printed of the first rows shows the row at its place. The row has as many
fields as the schema of rows has names, all of them different, those of the columns first and those of
partitions behind. If all floating-point numbers in the row are finite, the line is a JSON object of
exactly these names in order, each with a tree that shows its field; otherwise it is no JSON text. -/
theorem head_lines_are_json {choice : ColumnChoice} {encoding : String} {place : Nat}
    {line : String}
    (printed : ((head path limit choice encoding).run workplace).printed[place]? = some line) :
    ∃ options reading stream reading' schema columns partitions fields,
      ReaderOptions.ofRaw workplace.rules (rawOptions choice encoding) = .ok options ∧
      session workplace path options = .ok reading ∧
      reading.rows none = (.ok stream, reading') ∧ reading.schema.1 = .ok schema ∧
      reading'.fileSchema.1 = .ok columns ∧ reading'.resolvePartitions.1 = .ok partitions ∧
      schema.names = columns.names ++ partitions.1 ∧ schema.names.Nodup ∧
      (rowsBefore (stream.expected reading'.site))[place]? = some (.row fields none) ∧
      fields.length = schema.names.length ∧
      ((∀ field ∈ fields, field.FloatsFinite) →
        ∃ trees, List.Forall₂ Value.ShownBy fields trees ∧
          Json.IsText line (.object ((schema.names.map Json.units).zip trees))) ∧
      (¬ (∀ field ∈ fields, field.FloatsFinite) → ∀ tree, ¬ Json.IsText line tree) := by
  obtain ⟨options, conclusion, accepted, concluded, printed⟩ := exists_of_withOptions printed
  obtain ⟨reading, stream, reading', schema, opened, started, typed, told, lines⟩ :=
    exists_firstLines concluded
  obtain ⟨schema', columns, partitions, native, told', hcolumns, hpartitions, _, names, isFor, _⟩ :=
    rows_give_reference started
  obtain rfl : schema = schema' := by
    rw [told] at told'
    injection told' with same
    injection same
  rw [lines, firstLines, List.getElem?_map, Option.map_eq_some_iff] at printed
  obtain ⟨row, found, rfl⟩ := printed
  rw [List.getElem?_take, Option.ite_none_right_eq_some] at found
  have inside := found.2
  obtain ⟨fields, rfl, width⟩ := (Session.expects_of_rows started reading'.site).row_eq
    (ok_mem_of_mem_rowsBefore (List.mem_of_getElem? inside))
  have named : fields.length = schema.names.length := by
    rw [width, isFor.width_eq, isFor.tail_eq, names, List.length_append, List.length_map,
      Schema.names, List.length_map, Schema.width]
  rw [isFor.tableId_eq] at inside
  exact ⟨options, reading, stream, reading', schema, columns, partitions, fields, accepted, opened,
    started, typed, by rw [hcolumns], by rw [hpartitions], names, schema.distinct, inside, named,
    JsonForm.isText_ofRow named⟩

/-- One half. -/
def oneHalf : Binary64 :=
  .finite false (2 ^ 52) (-53) (by decide)

/-- A file of two rows of a number and a measure. The second measure is not a number. -/
def measuresWorkplace : Workplace :=
  ⟨.start ⟨"/", [("/measures.orc", Sniff.magic)]⟩
    (.table ⟨[("id", .integer true 8), ("ratio", .floating .double)],
      [.ok [.integers [some 1, some 2], .floats [some oneHalf, some .nan]]], none⟩), [], .standard⟩

/-- The session of the file in all its columns. -/
def measuresSession : Session :=
  .start measuresWorkplace.site
    ⟨⟨"/measures.orc", "", "/measures.orc", true, .none⟩, .standard, none, none, none⟩

/-- The line of the first row is a JSON object of both names, with trees that show its fields. -/
theorem head_lines_are_json_measures :
    ((head "/measures.orc" 5 ⟨none, []⟩ "utf-8").run measuresWorkplace).printed[0]? =
        some "\x7b\"id\": 1, \"ratio\": 0.5\x7d" ∧
      ∃ trees, List.Forall₂ Value.ShownBy [.int 1, .float oneHalf] trees ∧
        Json.IsText "\x7b\"id\": 1, \"ratio\": 0.5\x7d"
          (.object ((["id", "ratio"].map Json.units).zip trees)) := by
  have printed : ((head "/measures.orc" 5 ⟨none, []⟩ "utf-8").run measuresWorkplace).printed[0]? =
      some "\x7b\"id\": 1, \"ratio\": 0.5\x7d" := by decide +kernel
  have known : ReaderOptions.ofRaw measuresWorkplace.rules (rawOptions ⟨none, []⟩ "utf-8") =
    .ok .standard := by rfl
  have located : session measuresWorkplace "/measures.orc" .standard = .ok measuresSession := by rfl
  obtain ⟨columns, told, names⟩ : ∃ schema, measuresSession.schema.1 = .ok schema ∧
      schema.names = ["id", "ratio"] := ⟨_, by rfl, by rfl⟩
  obtain ⟨rows, left, begun, first⟩ : ∃ stream reading',
      measuresSession.rows none = (.ok stream, reading') ∧
        (rowsBefore (stream.expected reading'.site))[0]? =
          some (.row [.int 1, .float oneHalf] none) := ⟨_, _, by rfl, by rfl⟩
  obtain ⟨options, reading, stream, reading', schema, _, _, fields, accepted, opened, started, typed,
    _, _, _, _, inside, _, valid, _⟩ := head_lines_are_json printed
  obtain rfl : ReaderOptions.standard = options := Except.ok.inj (known.symm.trans accepted)
  obtain rfl : measuresSession = reading := Except.ok.inj (located.symm.trans opened)
  obtain ⟨hstream, rfl⟩ := Prod.mk.inj (begun.symm.trans started)
  obtain rfl : rows = stream := Except.ok.inj hstream
  obtain rfl : columns = schema := Except.ok.inj (told.symm.trans typed)
  obtain ⟨rfl, _⟩ := Value.row.inj (Option.some.inj (first.symm.trans inside))
  rw [names] at valid
  refine ⟨printed, valid ?_⟩
  simp [Value.FloatsFinite, oneHalf, Binary64.isFinite]

/-- The line of the second row is printed too, and it is no JSON text. -/
theorem measure_no_json :
    ((head "/measures.orc" 5 ⟨none, []⟩ "utf-8").run measuresWorkplace).printed[1]? =
        some "\x7b\"id\": 2, \"ratio\": NaN\x7d" ∧
      ∀ tree, ¬ Json.IsText "\x7b\"id\": 2, \"ratio\": NaN\x7d" tree := by
  have infinite : ¬ ∀ field ∈ [Value.int 2, .float .nan], field.FloatsFinite := fun finite =>
    Bool.false_ne_true (finite (.float .nan) (by simp))
  have refused := (@JsonForm.isText_ofRow ["id", "ratio"] _ rfl).2 infinite
  have same : (JsonForm.ofRow ["id", "ratio"] [.int 2, .float .nan]).compact =
      "\x7b\"id\": 2, \"ratio\": NaN\x7d" := by decide +kernel
  rw [same] at refused
  exact ⟨by decide +kernel, refused⟩

end Command

end OrcRows
