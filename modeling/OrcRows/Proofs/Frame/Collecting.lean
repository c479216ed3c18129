import OrcRows.Proofs.Frame.Entries

/-!
# Columns filled row by row

After any rows were offered to a collector, accepted and refused ones in whatever order, every
column has one entry for each row that was accepted, in order of the rows. Each offer either enters
a row in all columns or leaves all of them as they are.
-/

namespace OrcRows

/-- The fields of a row of a width. -/
def Value.fieldsOf? (width : Nat) : Value → Option (List Value)
  | .row fields _ => if fields.length = width then some fields else none
  | _ => none

namespace Collector

variable {collector : Collector} {schema : Schema} {rows : List (List Value)}

/-- A collector holds rows: there is a column for each field of the schema, and each column has one
entry for each row, made of the row's field at the place of the column. -/
structure Holds (collector : Collector) (schema : Schema) (rows : List (List Value)) : Prop where
  /-- The columns are those of the schema. -/
  schema_eq : collector.schema = schema
  /-- There is a column for each field. -/
  width_eq : collector.columns.length = schema.width
  /-- No column is longer or shorter than there are rows. -/
  length_eq : ∀ column ∈ collector.columns, column.length = rows.length
  /-- An entry is what the field of its row becomes under the type of the column. -/
  entry_eq : ∀ (place : Nat) (column : List Value) (field : String × UnifiedType),
    collector.columns[place]? = some column → schema.fields[place]? = some field →
    ∀ (index : Nat) (row : List Value), rows[index]? = some row →
      ∃ value, row[place]? = some value ∧ column[index]? = some (value.columnar field.2)

/-- Empty columns hold no rows. -/
theorem holds_start (schema : Schema) : (start schema).Holds schema [] where
  schema_eq := rfl
  width_eq := List.length_map _
  length_eq column member := by
    obtain ⟨_, _, rfl⟩ := List.mem_map.mp member
    rfl
  entry_eq _ _ _ _ _ _ _ found := nomatch found

/-- A row of the right width is entered at the end of every column. -/
theorem Holds.push (h : collector.Holds schema rows) {row : List Value}
    (width : row.length = schema.width) : (collector.push row).Holds schema (rows ++ [row]) := by
  have hwidth := h.width_eq
  obtain ⟨rfl, _, lengths, entries⟩ := h
  -- the entry of a place stands behind the column at that place
  have pushed : ∀ (place : Nat) (column : List Value),
      (collector.push row).columns[place]? = some column →
      ∃ before field value, collector.columns[place]? = some before ∧
        collector.schema.fields[place]? = some field ∧ row[place]? = some value ∧
        column = before ++ [value.columnar field.2] := by
    intro place column found
    simp only [Collector.push, List.getElem?_map, Option.map_eq_some_iff, Prod.exists] at found
    obtain ⟨before, entry, paired, rfl⟩ := found
    obtain ⟨hbefore, hentry⟩ := List.getElem?_zip_eq_some.mp paired
    simp only [List.getElem?_map, Option.map_eq_some_iff, Prod.exists] at hentry
    obtain ⟨type, value, typed, rfl⟩ := hentry
    obtain ⟨htype, hvalue⟩ := List.getElem?_zip_eq_some.mp typed
    simp only [Schema.types, List.getElem?_map, Option.map_eq_some_iff] at htype
    obtain ⟨field, hfield, rfl⟩ := htype
    exact ⟨before, field, value, hbefore, hfield, hvalue, rfl⟩
  refine ⟨rfl, ?_, fun column member => ?_, fun place column field found known index other => ?_⟩
  · simp only [Collector.push, List.length_map, List.length_zip, Schema.types, hwidth, width,
      Schema.width, Nat.min_self]
  · obtain ⟨place, found⟩ := List.mem_iff_getElem?.mp member
    obtain ⟨before, _, _, hbefore, _, _, rfl⟩ := pushed place column found
    rw [List.length_append, List.length_append, lengths before (List.mem_of_getElem? hbefore)]
    rfl
  · obtain ⟨before, field', value, hbefore, hfield, hvalue, rfl⟩ := pushed place column found
    obtain rfl : field = field' := Option.some_inj.mp (known.symm.trans hfield)
    have same_length := lengths before (List.mem_of_getElem? hbefore)
    intro hother
    rcases Nat.lt_or_ge index rows.length with inside | last
    · rw [List.getElem?_append_left inside] at hother
      obtain ⟨held, hheld, entered⟩ := entries place before field hbefore known index other hother
      exact ⟨held, hheld, by rw [List.getElem?_append_left (same_length ▸ inside), entered]⟩
    · -- the last row is the one that was entered
      have bound := (List.getElem?_eq_some_iff.mp hother).1
      obtain rfl : index = rows.length := by
        rw [List.length_append, List.length_singleton] at bound
        omega
      rw [List.getElem?_concat_length, Option.some_inj] at hother
      exact ⟨value, hother ▸ hvalue, by rw [← same_length, List.getElem?_concat_length]⟩

/-- A row of the wrong width is refused as one, and nothing is entered. -/
theorem offer_of_width_ne (collector : Collector) {fields : List Value} (kind : Option String)
    (wrong : fields.length ≠ collector.schema.width) :
    collector.offer (.row fields kind) = (.error (.broken .badValue), collector) := by
  simp only [offer, collectRow, collect, if_neg wrong]

/-- An offer is accepted exactly if it is a row of the right width. -/
theorem offer_eq (collector : Collector) (row : Value) :
    (∃ fields, row.fieldsOf? collector.schema.width = some fields ∧
      collector.offer row = (.ok (), collector.push fields)) ∨
    (row.fieldsOf? collector.schema.width = none ∧
      ∃ fault, collector.offer row = (.error fault, collector)) := by
  cases row with
  | row fields kind =>
    by_cases width : fields.length = collector.schema.width
    · exact .inl ⟨fields, if_pos width, by simp only [offer, collectRow, collect, if_pos width]⟩
    · exact .inr ⟨if_neg width, _, collector.offer_of_width_ne kind width⟩
  | _ => exact .inr ⟨rfl, _, rfl⟩

/-- Whatever is offered, the collector holds what it held and the row, if it was accepted. -/
theorem Holds.offer (h : collector.Holds schema rows) (row : Value) :
    (collector.offer row).2.Holds schema (rows ++ (row.fieldsOf? schema.width).toList) ∧
      ((collector.offer row).1 = .ok () ↔ (row.fieldsOf? schema.width).isSome) := by
  obtain rfl := h.schema_eq
  rcases collector.offer_eq row with ⟨fields, found, offered⟩ | ⟨found, fault, offered⟩
  · rw [offered, found]
    have width : fields.length = collector.schema.width := by
      cases row with
      | row values kind =>
        obtain ⟨width, same⟩ := Option.ite_none_right_eq_some.mp found
        exact Option.some_inj.mp same ▸ width
      | _ => nomatch found
    exact ⟨h.push width, by simp⟩
  · rw [offered, found]
    exact ⟨by simpa using h, by simp⟩

/-- After any offers the collector holds what it held and the accepted rows, in order, and there is
one outcome for each offer, which says whether it was accepted. -/
theorem Holds.offers (h : collector.Holds schema rows) (values : List Value) :
    (collector.offers values).2.Holds schema
        (rows ++ values.filterMap (Value.fieldsOf? schema.width)) ∧
      List.Forall₂ (fun value outcome => outcome = .ok () ↔ (value.fieldsOf? schema.width).isSome)
        values (collector.offers values).1 := by
  induction values generalizing collector rows with
  | nil => exact ⟨by simpa [Collector.offers] using h, .nil⟩
  | cons value rest ih =>
    obtain ⟨entered, told⟩ := h.offer value
    obtain ⟨last, later⟩ := ih entered
    refine ⟨?_, .cons told later⟩
    rw [List.append_assoc] at last
    cases found : value.fieldsOf? schema.width with
    | none => simpa [Collector.offers, found] using last
    | some fields => simpa [Collector.offers, found] using last

/-- The columns of a frame stay aligned. Whatever is offered, the columns hold exactly the accepted
rows, which are the rows of the width of the schema, and a row of another width is refused with no
column touched. A value of a type enters as itself, but for rows, which enter as records under
exactly their names, and maps, which enter as lists of records of a key and a value; so values of a
type enter as the same entry only if they are the same, as data and, under distinct names, in what
they denote. -/
theorem columns_aligned (schema : Schema) :
    (∀ values : List Value,
      ((start schema).offers values).2.Holds schema
          (values.filterMap (Value.fieldsOf? schema.width)) ∧
        List.Forall₂
          (fun value outcome => outcome = .ok () ↔ (value.fieldsOf? schema.width).isSome)
          values ((start schema).offers values).1) ∧
    (∀ (before : List Value) (fields : List Value) (kind : Option String),
      fields.length ≠ schema.width →
      ((start schema).offers before).2.offer (.row fields kind) =
        (.error (.broken .badValue), ((start schema).offers before).2)) ∧
    (∀ (type : UnifiedType) (value : Value), value.IsOf type →
      Value.EntersAs type value (value.columnar type)) ∧
    ∀ (type : UnifiedType) (a b : Value), a.IsOf type → b.IsOf type →
      (a.columnar type = b.columnar type → a = b) ∧
      (type.NamesDistinct → Value.same (a.columnar type) (b.columnar type) = true →
        Value.same a b = true) := by
  have held := fun values => (holds_start schema).offers values
  refine ⟨held, fun before fields kind wrong => ?_, fun type value => Value.entersAs_columnar type,
    fun type a b ofA ofB => ⟨fun equal => ?_, fun distinct denoted => ?_⟩⟩
  · exact offer_of_width_ne _ kind ((held before).1.schema_eq.symm ▸ wrong)
  · exact (Value.entersAs_columnar type ofA).eq (equal ▸ Value.entersAs_columnar type ofB)
  · exact (Value.entersAs_columnar type ofA).same distinct (Value.entersAs_columnar type ofB) denoted

/-- A number, a place with a name, and counts by name. -/
def visits : Schema where
  fields := [("id", .basic .bigint), ("place", .row [("name", .basic .string)]),
    ("counts", .map (.basic .string) (.basic .int))]
  distinct := by decide

/-- A row of visits. -/
def visit (id : Int) (place : String) (counts : List (Value × Value)) : Value :=
  .row [.int id, .row [.text place] none, .map counts] none

/-- Between two rows of visits, a row without counts is refused and leaves the columns as they are;
the places enter as different records, since they differ. -/
theorem columns_aligned_visits :
    ((start visits).offers [visit 1 "a" [(.text "x", .int 3)],
        .row [.int 2, .row [.text "b"] none] none, visit 3 "c" []]).2.Holds visits
      [[.int 1, .row [.text "a"] none, .map [(.text "x", .int 3)]],
        [.int 3, .row [.text "c"] none, .map []]] ∧
    ((start visits).offers [visit 1 "a" [(.text "x", .int 3)]]).2.offer
        (.row [.int 2, .row [.text "b"] none] none) =
      (.error (.broken .badValue), ((start visits).offers [visit 1 "a" [(.text "x", .int 3)]]).2) ∧
    Value.EntersAs (.map (.basic .string) (.basic .int)) (.map [(.text "x", .int 3)])
      (.list [.keyValue (.text "x") (.int 3)]) ∧
    Value.same (Value.columnar (.row [("name", .basic .string)]) (.row [.text "a"] none))
      (Value.columnar (.row [("name", .basic .string)]) (.row [.text "c"] none)) = false := by
  obtain ⟨held, refused, entered, told⟩ := columns_aligned visits
  refine ⟨(held _).1, refused _ _ _ (by decide), entered _ _ (.inr ⟨?_, ?_⟩), ?_⟩
  · exact List.forall_mem_singleton.mpr ⟨.inr trivial, .inr ⟨32, rfl, by norm_num [FitsBits]⟩⟩
  · exact List.pairwise_singleton _ _
  · have named : ∀ place, (Value.row [.text place] none).IsOf (.row [("name", .basic .string)]) :=
      fun place => .inr ⟨.inr trivial, trivial⟩
    refine Bool.eq_false_iff.mpr fun denoted => ?_
    have := (told _ _ _ (named "a") (named "c")).2 ⟨by decide, trivial, trivial⟩ denoted
    simp [Value.same, Value.sameAll] at this

end Collector

end OrcRows
