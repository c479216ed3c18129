import OrcRows.Proofs.Session.Completing
import OrcRows.Proofs.Session.PickedPlan
import OrcRows.Proofs.Session.PickedRows

/-!
# Reading some columns

Names lead to columns three times: to the declared types of a file, to the types of a plan and to
the columns of a stripe. In a table whose columns have distinct names all three lead to the same
places, so a read of some columns gives what the read of all columns gives at these places.
-/

namespace OrcRows

namespace NativeType

/-- The declared type of a table has the names of its columns. -/
theorem fieldNames_of_ofTable {fields : List (String × ColumnType)} {native : NativeType}
    (h : ofTable fields = .ok native) : native.fieldNames = fields.map (·.1) := by
  obtain ⟨natives, hnatives, made⟩ := Outcome.bind_eq_ok h
  injection made with made
  obtain ⟨hlength, hplaces⟩ := ofColumns_eq_ok hnatives
  rw [← made]
  apply List.ext_getElem?
  intro place
  show (natives.map (·.1))[place]? = (fields.map (·.1))[place]?
  rw [List.getElem?_map, List.getElem?_map]
  cases hfield : fields[place]? with
  | some field =>
    obtain ⟨child, hchild, _⟩ := hplaces place field hfield
    rw [hchild]
    rfl
  | none =>
    have outside : natives[place]? = none := by
      rw [List.getElem?_eq_none_iff] at hfield ⊢
      omega
    rw [outside]
    rfl

end NativeType

/-- A read of some columns beside a read of all columns: the same is asked of the same file but for
the columns, and the types asked for are those at the places of the columns. -/
structure ReadRequest.IsProjection (projected request : ReadRequest) (columns : List String)
    (places : List Nat) : Prop where
  /-- The same file is read. -/
  handle_eq : projected.handle = request.handle
  /-- The same reader reads it. -/
  readerName_eq : projected.readerName = request.readerName
  /-- The same partitions are given. -/
  partitions_eq : projected.partitions = request.partitions
  /-- Bytes become text in the same way. -/
  policy_eq : projected.options.textPolicy = request.options.textPolicy
  /-- Partitions of the path are merged by both or by neither. -/
  merges_eq : projected.options.mergesPartitions = request.options.mergesPartitions
  /-- The partitions are defined in the same way. -/
  definitions_eq : projected.options.definitions = request.options.definitions
  /-- One read selects all columns. -/
  all : request.options.selected.getD [] = []
  /-- The other one selects some. -/
  selected_eq : projected.options.selected = some columns
  /-- The types asked for are those at the places of the columns. -/
  target_eq : projected.target.map (·.fields) =
    request.target.map fun wanted => picked places wanted.fields

namespace ReadRequest.IsProjection

variable {projected request : ReadRequest} {columns : List String} {places : List Nat}
  {site : Site}

/-- The file is the same. -/
theorem pathFact_eq (h : projected.IsProjection request columns places) :
    projected.pathFact = request.pathFact := by
  rw [pathFact, pathFact, h.handle_eq]

/-- The partitions are the same. -/
theorem foundPartitions_eq (h : projected.IsProjection request columns places) :
    projected.foundPartitions = request.foundPartitions := by
  rw [foundPartitions, foundPartitions, h.partitions_eq, h.merges_eq, h.handle_eq,
    h.definitions_eq, ReaderOptions.partitionNames, ReaderOptions.partitionNames, h.definitions_eq]

/-- The file is in the format for both or for neither. -/
theorem detect_eq (h : projected.IsProjection request columns places) (site : Site) :
    (Session.start site projected).detect = (Session.start site request).detect := by
  show Sniff.isRecognized site.storage projected.handle _ =
    Sniff.isRecognized site.storage request.handle _
  rw [h.handle_eq]

/-- The declared type is the same. -/
theorem nativeSchema_eq (h : projected.IsProjection request columns places) (site : Site) :
    (Session.start site projected).nativeSchema.1 =
      (Session.start site request).nativeSchema.1 := by
  rw [Session.nativeSchema_start, Session.nativeSchema_start, h.readerName_eq, h.handle_eq,
    h.pathFact_eq]

/-- The stream of picked columns has the plan of the picked columns. -/
theorem streamOf_picked (h : projected.IsProjection request columns places)
    (tableId : Option String) (partitions : List String × PartitionMap)
    (planned : List PlanColumn) :
    projected.streamOf tableId partitions (picked places planned) =
      { request.streamOf tableId partitions planned with
        plan := (request.streamOf tableId partitions planned).plan.picked places } := by
  rw [streamOf, streamOf, h.handle_eq, h.policy_eq, h.readerName_eq]
  rfl

end ReadRequest.IsProjection

/-- The places of columns among the columns of a table. -/
def Table.placesOf (table : Table) (columns : List String) : List Nat :=
  columns.map (table.fields.map (·.1)).idxOf

section Reads

variable {table : Table} {site : Site} {request projected : ReadRequest} {columns : List String}

/-- The places of columns of a table are places of the table. -/
theorem Table.lt_of_mem_placesOf (known : columns ⊆ table.fields.map (·.1)) :
    ∀ place ∈ table.placesOf columns, place < table.fields.length := by
  have inside := idxOf_lt_of_mem known
  rwa [List.length_map] at inside

/-- The schema of all columns of a table has the names of the columns. -/
theorem Session.names_of_fileSchema (source : site.source = .table table)
    (all : request.options.selected.getD [] = []) {schema : Schema}
    (h : (start site request).fileSchema.1 = .ok schema) :
    schema.names = table.fields.map (·.1) := by
  rw [fileSchema_start] at h
  obtain ⟨native, hnative, h⟩ := Outcome.bind_eq_ok h
  have declared := nativeSchema_of_table source rfl hnative
  cases inferred : native.inferSchema request.target request.options.selected with
  | error fault =>
    rw [inferred] at h
    cases h
  | ok found =>
    rw [inferred] at h
    injection h with same
    obtain ⟨types, _, hs⟩ := Outcome.bind_eq_ok inferred
    rw [native.selection_of_none all] at hs
    rw [← same, Schema.names_of hs, NativeType.fieldNames_of_ofTable declared]

/-- The schema of some columns has the fields at their places. -/
theorem ReadRequest.IsProjection.fileSchema
    (projection : projected.IsProjection request columns (table.placesOf columns))
    (source : site.source = .table table) (some_columns : columns ≠ [])
    (known : columns ⊆ table.fields.map (·.1))
    (covered : ∀ wanted, request.target = some wanted → table.fields.length ≤ wanted.width)
    {schema : Schema} (h : (Session.start site request).fileSchema.1 = .ok schema) :
    ∃ schema', (Session.start site projected).fileSchema.1 = .ok schema' ∧
      schema'.fields = picked (table.placesOf columns) schema.fields := by
  rw [Session.fileSchema_start] at h
  obtain ⟨native, hnative, h⟩ := Outcome.bind_eq_ok h
  have declared := Session.nativeSchema_of_table source rfl hnative
  have hnames := NativeType.fieldNames_of_ofTable declared
  have hwidth : native.fieldNames.length = table.fields.length := by rw [hnames, List.length_map]
  have distinct : columns.Nodup := by
    have hdistinct := projected.options.columnsDistinct
    rwa [projection.selected_eq, Option.getD_some] at hdistinct
  have hpicked : picked (table.placesOf columns) native.fieldNames = columns := by
    rw [hnames]
    exact picked_idxOf known
  cases inferred : native.inferSchema request.target request.options.selected with
  | error fault =>
    rw [inferred] at h
    cases h
  | ok found =>
    rw [inferred] at h
    injection h with same
    obtain ⟨schema', hinferred, hfields⟩ := NativeType.inferSchema_picked inferred projection.all
      (fun wanted asked => hwidth ▸ covered wanted asked) projection.target_eq
      (fun place member => hwidth ▸ Table.lt_of_mem_placesOf known place member)
      (nodup_map_idxOf known distinct) (by simpa [Table.placesOf] using some_columns)
    rw [hpicked] at hinferred
    refine ⟨schema', ?_, same ▸ hfields⟩
    rw [Session.fileSchema_start, projection.nativeSchema_eq, hnative, Outcome.ok_bind,
      projection.selected_eq, hinferred]
    rfl

/-- A stream of a table gives only rows exactly if the reader of tables is picked and can be opened
and the stripes give only rows. -/
theorem Stream.expected_eq_rows_iff (source : site.source = .table table) {stream : Stream}
    (fresh : stream.progress = .fresh) {rows : List Value} :
    stream.expected site = rows.map .ok ↔
      (∃ name native, site.registry.pick stream.readerName = .ok name ∧
        Registry.kindOf name = .table ∧ site.declares .table stream.handle = .ok native) ∧
      ((table.feed stream.handle.uri stream.plan.names).flatMap stream.plan.itemsOf).mapIdx
        stream.plan.resolve = rows.map .ok := by
  rw [expected, fresh]
  constructor
  · intro h
    cases hitems : stream.items site with
    | error fault =>
      rw [hitems] at h
      cases rows <;> cases h
    | ok items =>
      rw [hitems] at h
      obtain ⟨name, hpick, rfl⟩ := items_eq_ok hitems
      cases given : site.declares (Registry.kindOf name) stream.handle with
      | error fault =>
        rw [given] at h
        cases rows <;> cases h
      | ok native =>
        rw [given] at h
        cases hkind : Registry.kindOf name with
        | script =>
          rw [hkind, Site.declares, source] at given
          cases given
        | table =>
          rw [hkind] at given h
          rw [source] at h
          exact ⟨⟨name, native, hpick, hkind, given⟩, h⟩
  · rintro ⟨⟨name, native, hpick, hkind, given⟩, h⟩
    have hitems : stream.items site = .ok ((table.feed stream.handle.uri
        stream.plan.names).flatMap stream.plan.itemsOf) := by
      rw [items, hpick, Except.map, hkind, Site.serves_eq_map, given, source]
      rfl
    rw [hitems]
    exact h

/-- What is left of the stream of some columns is what is left of the stream of all columns,
restricted, if those are rows. -/
theorem ReadRequest.IsProjection.expected
    (projection : projected.IsProjection request columns (table.placesOf columns))
    (source : site.source = .table table) (distinct : (table.fields.map (·.1)).Nodup)
    (rectangular : table.IsRectangular) (some_columns : columns ≠ [])
    (known : columns ⊆ table.fields.map (·.1)) {tableId : Option String}
    {partitions : List String × PartitionMap} {planned : List PlanColumn}
    (hplanned : planned.map (·.name) = table.fields.map (·.1)) {rows : List Value}
    (h : (request.streamOf tableId partitions planned).expected site = rows.map .ok) :
    (projected.streamOf tableId partitions (picked (table.placesOf columns) planned)).expected
        site =
      (rows.map (Value.restrict (table.placesOf columns) table.fields.length)).map .ok := by
  have hwidth : planned.length = table.fields.length := by
    have hlengths := congrArg List.length hplanned
    rwa [List.length_map, List.length_map] at hlengths
  have inside := Table.lt_of_mem_placesOf known
  have inside' : ∀ place ∈ table.placesOf columns, place < planned.length :=
    fun place member => hwidth ▸ inside place member
  obtain ⟨opened, hrows⟩ := (Stream.expected_eq_rows_iff source rfl).mp h
  rw [projection.streamOf_picked, Stream.expected_eq_rows_iff source rfl]
  refine ⟨opened, ?_⟩
  have hnames : (request.streamOf tableId partitions planned).plan.names =
      table.fields.map (·.1) := hplanned
  have hnames' : ((request.streamOf tableId partitions planned).plan.picked
      (table.placesOf columns)).names =
      picked (table.placesOf columns) (table.fields.map (·.1)) := by
    rw [← hnames]
    exact (picked_map _ _).symm
  have served : ∀ fault, .error fault ∉
      table.feed request.handle.uri (table.fields.map (·.1)) := by
    intro fault member
    rw [hnames] at hrows
    exact ReadPlan.fault_not_mem_items hrows fault
      (List.mem_flatMap.mpr ⟨_, member, List.mem_singleton_self _⟩)
  have hfeed := Table.feed_picked distinct rectangular inside
    (by simpa [Table.placesOf] using some_columns) request.handle.uri served
  have hpicked := ReadPlan.mapIdx_resolve_picked hrows inside'
  rw [hnames] at hpicked
  simp only [hnames']
  rw [← hwidth]
  exact hfeed ▸ hpicked

end Reads

/-- Reading some columns gives what reading all columns gives, at the places of these columns and in
their order, with the same partition values behind: the schemas, and every row, if the read of all
columns completes. The types asked for, if any, are asked at the same places. -/
theorem read_projection {table : Table} {site : Site} {request projected : ReadRequest}
    {columns : List String} (source : site.source = .table table)
    (distinct : (table.fields.map (·.1)).Nodup) (rectangular : table.IsRectangular)
    (some_columns : columns ≠ []) (known : columns ⊆ table.fields.map (·.1))
    (covered : ∀ wanted, request.target = some wanted → table.fields.length ≤ wanted.width)
    (projection : projected.IsProjection request columns (table.placesOf columns))
    (tableId : Option String) :
    (∀ schema, (Session.start site request).fileSchema.1 = .ok schema →
      ∃ schema', (Session.start site projected).fileSchema.1 = .ok schema' ∧
        schema'.fields = picked (table.placesOf columns) schema.fields) ∧
    (∀ schema, (Session.start site request).schema.1 = .ok schema →
      ∃ schema', (Session.start site projected).schema.1 = .ok schema' ∧
        schema'.fields = picked (table.placesOf columns) schema.fields ++
          schema.fields.drop table.fields.length) ∧
    ∀ rows, (Session.start site request).Completes tableId rows →
      (Session.start site projected).Completes tableId
        (rows.map (Value.restrict (table.placesOf columns) table.fields.length)) := by
  have follows : (Session.start site request).Follows site request :=
    Session.follows_start (.refl site)
  have follows' : (Session.start site projected).Follows site projected :=
    Session.follows_start (.refl site)
  have hfile : ∀ schema, (Session.start site request).fileSchema.1 = .ok schema → _ :=
    fun _ told => projection.fileSchema source some_columns known covered told
  have hwidth : ∀ schema, (Session.start site request).fileSchema.1 = .ok schema →
      schema.width = table.fields.length := by
    intro schema told
    have hnames := congrArg List.length (Session.names_of_fileSchema source projection.all told)
    rwa [Schema.names, List.length_map, List.length_map] at hnames
  have inside : ∀ schema, (Session.start site request).fileSchema.1 = .ok schema →
      ∀ place ∈ table.placesOf columns, place < schema.width :=
    fun schema told place member => hwidth schema told ▸ Table.lt_of_mem_placesOf known place member
  refine ⟨hfile, fun schema told => ?_, fun rows completes => ?_⟩
  · rw [follows.schema_fst] at told
    obtain ⟨partitions, hfound, told⟩ := Outcome.bind_eq_ok told
    obtain ⟨all, hall, told⟩ := Outcome.bind_eq_ok told
    obtain ⟨some_fields, hsome, hfields⟩ := hfile all hall
    obtain ⟨schema', hschema', hfields'⟩ := Schema.withPartitions_picked told hfields
    refine ⟨schema', ?_, ?_⟩
    · rw [follows'.schema_fst, projection.foundPartitions_eq, hfound, Outcome.ok_bind, hsome,
        Outcome.ok_bind, hschema']
    · have hfront : picked (table.placesOf columns) schema.fields =
          picked (table.placesOf columns) all.fields := by
        rw [Schema.fields_withPartitions told, picked_append (inside all hall)]
      rw [hfields', hfront, hwidth all hall]
  · obtain ⟨stream, given, hrows⟩ := follows.completes_iff.mp completes
    obtain ⟨hdetect, all, partitions, schema, native, planned, hall, hfound, hwhole, hnative,
      hplanned, rfl⟩ := follows.rows_eq_ok_iff.mp given
    obtain ⟨some_fields, hsome, hfields⟩ := hfile all hall
    obtain ⟨schema', hschema', _⟩ := Schema.withPartitions_picked hwhole hfields
    have hpicked := Session.planColumns_picked hplanned hfields (inside all hall)
    have hnames : planned.map (·.name) = table.fields.map (·.1) :=
      (Session.names_of_planColumns hplanned).trans
        (Session.names_of_fileSchema source projection.all hall)
    refine follows'.completes_iff.mpr ⟨_, follows'.rows_eq_ok_iff.mpr ⟨?_, some_fields, partitions,
      schema', native, _, hsome, ?_, hschema', ?_, hpicked, rfl⟩, ?_⟩
    · rw [projection.detect_eq, hdetect]
    · rw [projection.foundPartitions_eq, hfound]
    · rw [projection.nativeSchema_eq, hnative]
    · exact projection.expected source distinct rectangular some_columns known hnames hrows

/-- A table of orders in two stripes and an empty one between them. -/
def ordersTable : Table :=
  ⟨[("id", .integer true 32), ("item", .text false), ("price", .integer true 64)],
    [.ok [.integers [some 1, none], .bytes [some [0x61], some [0x62]],
       .integers [some 10, some 20]],
     .ok [.integers [], .bytes [], .integers []],
     .ok [.integers [some 3], .bytes [none], .integers [some 30]]], none⟩

/-- The place of the orders. -/
def ordersSite : Site := .start ⟨"/", [("/orders", Sniff.magic)]⟩ (.table ordersTable)

/-- A read of all orders: identifiers are asked for as long integers and prices as text. -/
def ordersRequest : ReadRequest :=
  ⟨⟨"/orders", "", "/orders", false, .none⟩, .standard,
    some ⟨[("a", .basic .bigint), ("b", .basic .string), ("c", .basic .string)], by decide⟩,
    some [("year", some "2024")], none⟩

/-- A read of prices and identifiers, with the types asked for in this order. -/
def pricesRequest : ReadRequest :=
  ⟨ordersRequest.handle,
    { ReaderOptions.standard with selected := some ["price", "id"], columnsDistinct := by decide },
    some ⟨[("c", .basic .string), ("a", .basic .bigint)], by decide⟩, ordersRequest.partitions,
    none⟩

/-- Every stripe of the orders has three arrays of one length. -/
theorem ordersTable_isRectangular : ordersTable.IsRectangular := by
  constructor
  · intro arrays stripe
    simp only [ordersTable, List.mem_cons, Except.ok.injEq, List.not_mem_nil, or_false] at stripe
    rcases stripe with rfl | rfl | rfl <;> rfl
  · intro arrays stripe
    simp only [ordersTable, List.mem_cons, Except.ok.injEq, List.not_mem_nil, or_false] at stripe
    rcases stripe with rfl | rfl | rfl <;> simp [ColumnData.length]

/-- The read of all orders completes with the rows of both filled stripes. -/
theorem orders_completes :
    (Session.start ordersSite ordersRequest).Completes none
      [.row [.int 1, .text "a", .text "10", .text "2024"] none,
       .row [.null, .text "b", .text "20", .text "2024"] none,
       .row [.int 3, .null, .text "30", .text "2024"] none] := by
  have follows : (Session.start ordersSite ordersRequest).Follows ordersSite ordersRequest :=
    Session.follows_start (.refl ordersSite)
  exact follows.completes_iff.mpr ⟨ordersRequest.streamOf none (["year"], [("year", some "2024")])
    [⟨"id", .primitive .int, .basic .bigint⟩, ⟨"item", .primitive .string, .basic .string⟩,
     ⟨"price", .primitive .bigint, .basic .string⟩], by rfl, by rfl⟩

/-- The prices and identifiers of all orders are read from the columns of the orders. -/
theorem read_projection_prices :
    (Session.start ordersSite pricesRequest).Completes none
      [.row [.text "10", .int 1, .text "2024"] none, .row [.text "20", .null, .text "2024"] none,
       .row [.text "30", .int 3, .text "2024"] none] := by
  have projection : pricesRequest.IsProjection ordersRequest ["price", "id"]
      (ordersTable.placesOf ["price", "id"]) :=
    ⟨rfl, rfl, rfl, rfl, rfl, rfl, rfl, rfl, rfl⟩
  have source : ordersSite.source = .table ordersTable := rfl
  have distinct : (ordersTable.fields.map (·.1)).Nodup := by decide
  have known : ["price", "id"] ⊆ ordersTable.fields.map (·.1) := by decide
  have covered : ∀ wanted, ordersRequest.target = some wanted →
      ordersTable.fields.length ≤ wanted.width := by
    intro wanted asked
    injection asked with same
    rw [← same]
    decide
  obtain ⟨_, _, rows⟩ := read_projection source distinct ordersTable_isRectangular
    (List.cons_ne_nil _ _) known covered projection none
  exact rows _ orders_completes

end OrcRows
