import OrcRows.Proofs.Session.Answers
import OrcRows.Proofs.Session.Draining

/-!
# The rows of a file

A stream of a file gives, request by request, what the items of its reader give, and the end from
then on. Its rows have the columns of the schema, then the partition values under the names at the
end of the schema.
-/

namespace OrcRows

/-- The schema with partitions has the fields of the columns, then a text field for each name. -/
theorem Schema.fields_withPartitions {columns schema : Schema} {partitionNames : List String}
    (h : columns.withPartitions partitionNames = .ok schema) :
    schema.fields = columns.fields ++ partitionNames.map fun name => (name, .basic .string) := by
  rw [withPartitions] at h
  split at h
  · cases h
  · obtain ⟨_, hfields⟩ := fields_of h
    have htail : partitionNames.zip (partitionNames.map fun _ => UnifiedType.basic .string) =
        partitionNames.map fun name => (name, UnifiedType.basic .string) := by
      have hpairs : (partitionNames.map id).zip
          (partitionNames.map fun _ => UnifiedType.basic .string) =
          partitionNames.map fun name => (id name, UnifiedType.basic .string) := List.zip_map'
      rwa [List.map_id] at hpairs
    rw [hfields, List.zip_append (by simp [names, types]), names, types, List.zip_map', htail]
    simp

/-- A plan reads the columns of a schema under their types, each declared as the first column of its
name in the file, and has the value of each partition name behind. -/
structure ReadPlan.IsFor (plan : ReadPlan) (session : Session) (native : NativeType)
    (columns : Schema) (partitions : List String × PartitionMap) (tableId : Option String) :
    Prop where
  /-- The plan knows the location of the file. -/
  uri_eq : plan.uri = session.uri
  /-- The plan decodes text as the options say. -/
  policy_eq : plan.policy = session.request.options.textPolicy
  /-- The rows carry the identifier of the table. -/
  tableId_eq : plan.tableId = tableId
  /-- There are as many planned columns as columns. -/
  width_eq : plan.columns.length = columns.width
  /-- Each column is planned under its name and its type. -/
  column_eq : ∀ (place : Nat) (field : String × UnifiedType), columns.fields[place]? = some field →
    ∃ declared, plan.columns[place]? = some ⟨field.1, declared, field.2⟩ ∧
      native.column? field.1 = some (.ok declared)
  /-- The partition values are those of the names, in their order. -/
  tail_eq : plan.tail = partitions.1.map fun name => (partitions.2.lookup name).join

/-- The plan of a stream of rows is for what the session has resolved. -/
theorem Session.Resolves.isFor {session : Session} {stream : Stream} {tableId : Option String}
    {columns : Schema} {partitions : List String × PartitionMap} {native : NativeType}
    {planned : List PlanColumn}
    (h : session.Resolves stream tableId columns partitions native planned) :
    stream.plan.IsFor session native columns partitions tableId := by
  rw [h.stream_eq]
  refine ⟨rfl, rfl, rfl, Outcome.length_of_mapM_eq_ok h.planned_known, ?_, rfl⟩
  intro place field hf
  obtain ⟨column, hplace, hcolumn⟩ := Outcome.getElem?_of_mapM_eq_ok h.planned_known hf
  obtain ⟨declared, hd, hcolumn⟩ := Outcome.bind_eq_ok hcolumn
  obtain ⟨child, hchild, hcolumn⟩ := Outcome.bind_eq_ok hcolumn
  injection hcolumn with same
  subst hchild
  refine ⟨child, by rw [hplace, ← same], ?_⟩
  cases hfound : native.column? field.1 with
  | none =>
    rw [hfound] at hd
    cases hd
  | some found =>
    rw [hfound] at hd
    injection hd with hsame
    rw [hsame]

/-- An item of a stream gives what it resolves to. -/
theorem Stream.gives_of_mem_items {stream : Stream} {site : Site} {items : List FeedItem}
    {item : FeedItem} (h : stream.items site = .ok items) (hm : item ∈ items) (emitted : Nat) :
    stream.plan.Gives emitted item (stream.plan.resolve emitted item) := by
  rw [Stream.items] at h
  cases hpick : site.registry.pick stream.readerName with
  | error fault =>
    rw [hpick] at h
    cases h
  | ok name =>
    rw [hpick] at h
    injection h with same
    rw [← same] at hm
    simp only at hm
    split at hm
    · rw [List.mem_singleton.mp hm]
      exact .fault
    · obtain ⟨served, _, hs⟩ := List.mem_flatMap.mp hm
      exact ReadPlan.gives_resolve hs emitted

/-- What is left of a new stream is its reference. -/
theorem Stream.expects_expected {stream : Stream} (h : stream.progress = .fresh) (site : Site) :
    stream.Expects site (stream.expected site) := by
  rw [Expects, expected, h]
  cases hitems : stream.items site with
  | error fault => rfl
  | ok items =>
    simp only
    refine ⟨List.length_mapIdx, fun place item hp => ?_⟩
    exact ⟨stream.plan.resolve place item, by simp [hp],
      Stream.gives_of_mem_items hitems (List.mem_of_getElem? hp) place⟩

/-- What is left of a stream that was just given is its reference. -/
theorem Session.expects_of_rows {session session' : Session} {tableId : Option String}
    {stream : Stream} (started : session.rows tableId = (.ok stream, session')) (site : Site) :
    stream.Expects site (stream.expected site) := by
  obtain ⟨_, _, _, _, _, _, resolves⟩ := Session.rows_eq_ok started
  have fresh : stream.progress = .fresh := by rw [resolves.stream_eq]
  exact Stream.expects_expected fresh site

/-- A row of the reference has the planned columns and the partition values. -/
theorem Stream.Expects.row_eq {stream : Stream} {site : Site} {expected : List (Outcome Value)}
    (h : stream.Expects site expected) {row : Value} (hr : .ok row ∈ expected) :
    ∃ fields, row = .row fields stream.plan.tableId ∧
      fields.length = stream.plan.columns.length + stream.plan.tail.length := by
  rw [Expects] at h
  cases hitems : stream.items site with
  | error fault =>
    rw [hitems] at h
    rw [h] at hr
    cases List.mem_singleton.mp hr
  | ok items =>
    rw [hitems] at h
    obtain ⟨hlength, hgives⟩ := h
    obtain ⟨place, hplace⟩ := List.mem_iff_getElem?.mp hr
    have hp : place < items.length := hlength ▸ (List.getElem?_eq_some_iff.mp hplace).1
    obtain ⟨outcome, ho, hgive⟩ := hgives place _ (List.getElem?_eq_getElem hp)
    rw [hplace, Option.some_inj] at ho
    subst ho
    generalize items[place] = item at hgive
    cases hgive with
    | @row _ _ cells width decoded =>
      exact ⟨_, rfl, by rw [List.length_append, List.length_map, width]⟩

/-- A sink is handed all rows of a stream that was not begun. -/
theorem Session.readInto_eq_consume {session session' : Session} {stream : Stream}
    {tableId : Option String}
    (started : session.rows tableId = (.ok stream, session')) (fresh : stream.progress = .fresh)
    {State : Type} (sink : State → Value → Outcome State) (state : State) :
    ((session.readInto tableId sink state).1, (session.readInto tableId sink state).2.1) =
      consume sink state 0 (stream.expected session'.site) := by
  have hbound := Stream.leadingRows_expected_le fresh session'.site
  rw [readInto, started]
  exact Stream.pour_eq_consume sink (stream.rowBound session'.site + 1) state 0 stream
    session'.site (by omega)

/-- A stream of a recognised file gives exactly its reference: the rows of all batches in order,
cell by cell under the schema, with the partition values behind and the identifier of the table; the
first fault in its place, and the end from then on, however often and wherever it is asked. A sink
is handed the same. -/
theorem rows_give_reference {session session' : Session} {tableId : Option String} {stream : Stream}
    (started : session.rows tableId = (.ok stream, session')) :
    ∃ (schema columns : Schema) (partitions : List String × PartitionMap) (native : NativeType),
      session'.schema = (.ok schema, session') ∧ session'.fileSchema = (.ok columns, session') ∧
      session'.resolvePartitions = (.ok partitions, session') ∧
      session'.nativeSchema = (.ok native, session') ∧
      schema.names = columns.names ++ partitions.1 ∧
      stream.plan.IsFor session' native columns partitions tableId ∧
      ∀ site, ∃ expected, stream.Expects site expected ∧
        (∀ row, .ok row ∈ expected →
          ∃ fields, row = .row fields tableId ∧ fields.length = schema.width) ∧
        (∀ sites, stream.calls (site :: sites) = answers (sites.length + 1) expected) ∧
        (site = session'.site → ∀ (State : Type) (sink : State → Value → Outcome State)
          (state : State), ((session.readInto tableId sink state).1,
            (session.readInto tableId sink state).2.1) = consume sink state 0 expected) := by
  obtain ⟨_, _, columns, partitions, native, planned, resolves⟩ := Session.rows_eq_ok started
  obtain ⟨schema, hschema⟩ := resolves.schema_known
  have isFor := resolves.isFor
  have hfields := Schema.fields_withPartitions hschema
  have hfile := Session.fileSchema_of_known resolves.columns_known
  have hpartitions := Session.resolvePartitions_of_known resolves.partitions_known
  have hfresh : stream.progress = .fresh := by rw [resolves.stream_eq]
  have hwhole : session'.schema = (.ok schema, session') := by
    rw [Session.schema, hpartitions]
    simp only [Answer.andThen, hfile, hschema]
  have hnames : schema.names = columns.names ++ partitions.1 := by
    rw [Schema.names, hfields, List.map_append, List.map_map]
    exact congrArg (columns.names ++ ·) (List.map_id' partitions.1)
  refine ⟨schema, columns, partitions, native, hwhole, hfile, hpartitions,
    Session.nativeSchema_of_known resolves.native_known, hnames, isFor, fun site => ?_⟩
  have hexpects := Stream.expects_expected hfresh site
  refine ⟨stream.expected site, hexpects, fun row hr => ?_, stream.calls_eq_answers site, ?_⟩
  · obtain ⟨fields, hrow, hlength⟩ := hexpects.row_eq hr
    refine ⟨fields, isFor.tableId_eq ▸ hrow, ?_⟩
    rw [hlength, isFor.width_eq, isFor.tail_eq, List.length_map, Schema.width, Schema.width,
      hfields, List.length_append, List.length_map]
  · rintro rfl State sink state
    exact Session.readInto_eq_consume started hfresh sink state

/-- A file whose only column is a count. -/
def countsHandle : Handle := ⟨"/counts", "", "/counts", false, .none⟩

/-- Two batches of counts, the second one without its vector, and a reader that breaks down behind
them. -/
def countsScript : Script :=
  ⟨.struct [("count", .primitive .int)],
    [.ok ⟨2, [some (.leaf ⟨[], true, false⟩ (.long [7, -5]))]⟩, .ok ⟨1, [none]⟩,
      .error (.broken .unreadable)], none⟩

/-- The place of the file. -/
def countsSite : Site := .start ⟨"/", [("/counts", Sniff.magic)]⟩ (.script countsScript)

/-- A session that reads the file with a year behind each row. -/
def countsSession : Session :=
  .start countsSite
    ⟨countsHandle, .standard, none, some [("year", some "2023")], some Registry.scriptName⟩

/-- Five requests are told a row of each count, a row of a missing one, the breakdown and the
end. -/
theorem rows_give_reference_counts :
    ∃ stream session' expected, countsSession.rows (some "t") = (.ok stream, session') ∧
      stream.Expects session'.site expected ∧
      answers 5 expected =
        [.ok (some (.row [.int 7, .text "2023"] (some "t"))),
          .ok (some (.row [.int (-5), .text "2023"] (some "t"))),
          .ok (some (.row [.null, .text "2023"] (some "t"))), .error (.broken .unreadable),
          .ok none] := by
  obtain ⟨stream, session', started, counted⟩ : ∃ stream session',
      countsSession.rows (some "t") = (.ok stream, session') ∧
      stream.calls (List.replicate 5 session'.site) =
        [.ok (some (.row [.int 7, .text "2023"] (some "t"))),
          .ok (some (.row [.int (-5), .text "2023"] (some "t"))),
          .ok (some (.row [.null, .text "2023"] (some "t"))), .error (.broken .unreadable),
          .ok none] := ⟨_, _, by rfl, by rfl⟩
  obtain ⟨_, _, _, _, _, _, _, _, _, _, hsite⟩ := rows_give_reference started
  obtain ⟨expected, hexpects, _, hcalls, _⟩ := hsite session'.site
  have hgiven := hcalls (List.replicate 4 session'.site)
  rw [List.length_replicate] at hgiven
  exact ⟨stream, session', expected, started, hexpects, hgiven.symm.trans counted⟩

end OrcRows
