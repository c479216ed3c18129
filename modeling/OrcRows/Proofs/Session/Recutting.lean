import OrcRows.Proofs.Session.Stripes

/-!
# Reading a table that is cut differently

A table may be cut into stripes in many ways: with any number of stripes, empty ones included, and
with other bounds and fillers in their arrays. Reads of two tables that hold the same are told the
same rows in the same order and end at the same place, so rows do not depend on the stripes.
-/

namespace OrcRows

section Rows

variable {plan : ReadPlan} {uri : String}

/-- The plan for a file at another location. -/
def ReadPlan.movedTo (plan : ReadPlan) (uri : String) : ReadPlan := { plan with uri := uri }

/-- A fault of a cell names facts of cells only. -/
theorem ReadPlan.mentions_of_cellOf {index : Nat} {column : PlanColumn}
    {vector : Option ColumnVector} {fault : Fault}
    (h : plan.cellOf index column vector = .error fault) : fault.Mentions cellFacts := by
  cases vector with
  | none => cases h
  | some vector =>
    have about := aboutCell_cell plan.policy vector column.declared (some column.type) index
    have hcell : vector.cell plan.policy column.declared (some column.type) index =
      .error fault := h
    rwa [hcell] at about

/-- Rows whose cells are alike, column by column, end alike. -/
theorem ReadPlan.Gives.endsAs {batch batch' : Batch} {index index' emitted : Nat}
    {outcome outcome' : Outcome Value} (given : plan.Gives emitted (.row batch index) outcome)
    (given' : (plan.movedTo uri).Gives emitted (.row batch' index') outcome')
    (alike : ∀ (position : Nat) (column : PlanColumn), plan.columns[position]? = some column →
      ∃ vector vector', batch.columns[position]? = some vector ∧
        batch'.columns[position]? = some vector' ∧
        (plan.cellOf index column vector).Alike (plan.cellOf index' column vector')) :
    outcome.EndsAs (· = ·) outcome' := by
  -- where one row has a cell the other has the same one, and no fault
  have hcell : ∀ {position : Nat} {column : PlanColumn} {vector vector' : Option ColumnVector},
      plan.columns[position]? = some column → batch.columns[position]? = some vector →
      batch'.columns[position]? = some vector' →
      (plan.cellOf index column vector).Alike (plan.cellOf index' column vector') := by
    intro position column vector vector' hcolumn hvector hvector'
    obtain ⟨found, found', hfound, hfound', halike⟩ := alike position column hcolumn
    cases hvector.symm.trans hfound
    cases hvector'.symm.trans hfound'
    exact halike
  cases given with
  | @row _ _ cells width decoded =>
    cases given' with
    | @row _ _ cells' width' decoded' =>
      have same : cells = cells' := by
        apply List.ext_getElem (width.trans width'.symm)
        intro position inside inside'
        have hcolumn := List.getElem?_eq_getElem (width ▸ inside : position < plan.columns.length)
        obtain ⟨vector, vector', hvector, hvector', halike⟩ := alike position _ hcolumn
        obtain ⟨cell, hcell, hread⟩ := decoded position _ vector hcolumn hvector
        obtain ⟨cell', hcell', hread'⟩ := decoded' position _ vector' hcolumn hvector'
        have hread' : plan.cellOf index' _ vector' = .ok cell' := hread'
        rw [hread, hread'] at halike
        have hsame : cell = cell' := halike
        rw [(List.getElem?_eq_some_iff.mp hcell).2, (List.getElem?_eq_some_iff.mp hcell').2, hsame]
      rw [same]
      exact rfl
    | @cell _ _ position column vector' fault planned served failing before =>
      obtain ⟨vector, _, hvector, _⟩ := alike position column planned
      obtain ⟨cell, _, hread⟩ := decoded position column vector planned hvector
      have halike := hcell planned hvector served
      have failing : plan.cellOf index' column vector' = .error fault := failing
      rw [hread, failing] at halike
      exact halike.elim
  | @cell _ _ position column vector fault planned served failing before =>
    cases given' with
    | @row _ _ cells' width' decoded' =>
      obtain ⟨_, vector', _, hvector', _⟩ := alike position column planned
      obtain ⟨cell', _, hread'⟩ := decoded' position column vector' planned hvector'
      have halike := hcell planned served hvector'
      have hread' : plan.cellOf index' column vector' = .ok cell' := hread'
      rw [failing, hread'] at halike
      exact halike.elim
    | @cell _ _ position' column' vector' fault' planned' served' failing' before' =>
      have failing' : plan.cellOf index' column' vector' = .error fault' := failing'
      rcases Nat.lt_trichotomy position position' with earlier | same | later
      · obtain ⟨_, found', _, hfound', _⟩ := alike position column planned
        obtain ⟨cell', hread'⟩ := before' position column found' earlier planned hfound'
        have halike := hcell planned served hfound'
        have hread' : plan.cellOf index' column found' = .ok cell' := hread'
        rw [failing, hread'] at halike
        exact halike.elim
      · subst same
        cases planned.symm.trans planned'
        have halike := hcell planned served served'
        rw [failing, failing'] at halike
        exact Fault.samePlace_located halike (mentions_of_cellOf failing)
          (mentions_of_cellOf failing') column.name emitted
      · obtain ⟨found, _, hfound, _⟩ := alike position' column' planned'
        obtain ⟨cell, hread⟩ := before position' column' found later planned' hfound
        have halike := hcell planned' hfound served'
        rw [hread, failing'] at halike
        exact halike.elim

end Rows

section Tables

variable {table table' : Table} {plan : ReadPlan} {uri : String}

/-- A projection finds the same in tables that hold the same. -/
theorem Table.HoldsSame.found?_eq (h : table.HoldsSame table') (names : List String)
    (name : String) : table'.found? names name = table.found? names name := by
  rw [found?, found?, kept, kept, located, located, h.fields_eq]

/-- Rows that show the same elements of tables that hold the same end alike. -/
theorem Table.HoldsSame.endsAs_resolve (h : table.HoldsSame table')
    (accepted : ∀ field ∈ table.fields, ∃ native, NativeType.ofColumn field.2 = .ok native)
    {place : Nat} {item item' : FeedItem} (shown : plan.ItemShows table place item)
    (shown' : (plan.movedTo uri).ItemShows table' place item') :
    (plan.resolve place item).EndsAs (· = ·) ((plan.movedTo uri).resolve place item') := by
  obtain ⟨batch, index, rfl, width, shows⟩ := shown
  obtain ⟨batch', index', rfl, width', shows'⟩ := shown'
  refine (plan.gives_resolve_row width index place).endsAs
    ((plan.movedTo uri).gives_resolve_row width' index' place) fun position column hcolumn => ?_
  obtain ⟨vector, type, spot, elements, element, found, hvector, hall, he, hshow⟩ :=
    shows position column hcolumn
  obtain ⟨vector', type', spot', elements', element', found', hvector', hall', he', hshow'⟩ :=
    shows' position column hcolumn
  have hfound : table'.found? plan.names column.name = some (type', spot') := found'
  rw [h.found?_eq, found] at hfound
  cases hfound
  obtain ⟨other, hfield⟩ := getElem?_of_found? found
  obtain ⟨native, hnative⟩ := accepted _ (List.mem_of_getElem? hfield)
  obtain ⟨both, hboth, hboth'⟩ := h.elements_eq spot _ native hfield hnative
  cases hall.symm.trans hboth
  cases hall'.symm.trans hboth'
  cases he.symm.trans he'
  exact ⟨some vector, some vector', hvector, hvector',
    type.isReadAlike _ _ _ _ _ hshow hshow' plan.policy column.declared (some column.type)⟩

/-- A table that holds the same as another one is whole if its columns have declared types. -/
theorem Table.HoldsSame.isWhole (h : table.HoldsSame table')
    (accepted : ∀ field ∈ table.fields, ∃ native, NativeType.ofColumn field.2 = .ok native) :
    table.IsWhole ∧ table'.IsWhole := by
  have helements : ∀ (place : Nat) (field : String × ColumnType),
      table.fields[place]? = some field → ∃ elements, table.elements? place = some elements ∧
        table'.elements? place = some elements := by
    intro place field hfield
    obtain ⟨native, hnative⟩ := accepted field (List.mem_of_getElem? hfield)
    exact h.elements_eq place field native hfield hnative
  refine ⟨⟨h.readable, h.rectangular, fun place field hfield => ?_⟩,
    ⟨h.readable', h.rectangular', fun place field hfield => ?_⟩⟩
  · obtain ⟨elements, known, _⟩ := helements place field hfield
    exact ⟨elements, known⟩
  · obtain ⟨elements, _, known⟩ := helements place field (h.fields_eq ▸ hfield)
    exact ⟨elements, known⟩

/-- A projection repeats the same names in tables that hold the same. -/
theorem Table.HoldsSame.repeats_eq (h : table.HoldsSame table') (names : List String) :
    table'.repeats names = table.repeats names := by
  rw [repeats, repeats, h.fields_eq]

/-- A column that is kept has the same elements in tables that hold the same. -/
theorem Table.HoldsSame.exists_elements_of_kept (h : table.HoldsSame table')
    (accepted : ∀ field ∈ table.fields, ∃ native, NativeType.ofColumn field.2 = .ok native)
    {names : List String} (some_kept : table.kept names ≠ []) :
    ∃ place elements, table.elements? place = some elements ∧
      table'.elements? place = some elements := by
  obtain ⟨⟨name, type, place⟩, member⟩ := List.exists_mem_of_ne_nil _ some_kept
  have hfield := mem_located.mp (List.mem_filter.mp member).1
  obtain ⟨native, hnative⟩ := accepted _ (List.mem_of_getElem? hfield)
  obtain ⟨elements, both⟩ := h.elements_eq place _ native hfield hnative
  exact ⟨place, elements, both⟩

/-- Tables that hold the same serve rows that end alike, one by one, to a projection that repeats no
name. -/
theorem Table.HoldsSame.forall₂_feed (h : table.HoldsSame table')
    (accepted : ∀ field ∈ table.fields, ∃ native, NativeType.ofColumn field.2 = .ok native)
    (single : table.repeats plan.names = false) (uri uri' : String) :
    List.Forall₂ (Outcome.EndsAs (· = ·))
      (((table.feed uri plan.names).flatMap plan.itemsOf).mapIdx plan.resolve)
      (((table'.feed uri' plan.names).flatMap (plan.movedTo uri').itemsOf).mapIdx
        (plan.movedTo uri').resolve) := by
  obtain ⟨whole, whole'⟩ := h.isWhole accepted
  have hkept : table'.kept plan.names = table.kept plan.names := by
    rw [kept, kept, located, located, h.fields_eq]
  have single' : table'.repeats (plan.movedTo uri').names = false :=
    (h.repeats_eq plan.names).trans single
  by_cases none_kept : table.kept plan.names = []
  · have hnone : (table'.feed uri' plan.names).flatMap (plan.movedTo uri').itemsOf = [] :=
      feed_of_kept_eq_nil whole' (hkept.trans none_kept) uri'
    rw [feed_of_kept_eq_nil whole none_kept, hnone]
    exact .nil
  · have some_kept' : table'.kept (plan.movedTo uri').names ≠ [] := hkept ▸ none_kept
    -- a column that is kept tells how many rows there are
    have hlength : ((table.feed uri plan.names).flatMap plan.itemsOf).length =
        ((table'.feed uri' plan.names).flatMap (plan.movedTo uri').itemsOf).length := by
      obtain ⟨place, elements, known, known'⟩ := h.exists_elements_of_kept accepted none_kept
      exact (whole.length_items single none_kept uri known).trans
        (whole'.length_items single' some_kept' uri' known').symm
    rw [List.forall₂_iff_get]
    refine ⟨by rw [List.length_mapIdx, List.length_mapIdx, hlength],
      fun place inside inside' => ?_⟩
    rw [List.length_mapIdx] at inside inside'
    rw [List.get_eq_getElem, List.get_eq_getElem, List.getElem_mapIdx, List.getElem_mapIdx]
    exact h.endsAs_resolve accepted
      (whole.itemShows single none_kept uri (List.getElem?_eq_getElem inside))
      (whole'.itemShows single' some_kept' uri' (List.getElem?_eq_getElem inside'))

/-- Tables that hold the same serve the same rows up to a fault. -/
theorem Table.HoldsSame.sameUntilFault_feed (h : table.HoldsSame table')
    (accepted : ∀ field ∈ table.fields, ∃ native, NativeType.ofColumn field.2 = .ok native)
    (plan : ReadPlan) (uri uri' : String) :
    SameUntilFault (((table.feed uri plan.names).flatMap plan.itemsOf).mapIdx plan.resolve)
      (((table'.feed uri' plan.names).flatMap (plan.movedTo uri').itemsOf).mapIdx
        (plan.movedTo uri').resolve) := by
  cases repeated : table.repeats plan.names with
  | false => exact sameUntilFault_of_forall₂ (h.forall₂_feed accepted repeated uri uri')
  | true =>
    obtain ⟨whole, whole'⟩ := h.isWhole accepted
    have repeated' : table'.repeats (plan.movedTo uri').names = true :=
      (h.repeats_eq plan.names).trans repeated
    obtain ⟨place, elements, known, known'⟩ :=
      h.exists_elements_of_kept accepted (kept_ne_nil_of_repeats repeated)
    obtain ⟨empty, refused⟩ := whole.items_of_repeats repeated uri known
    obtain ⟨empty', refused'⟩ := whole'.items_of_repeats repeated' uri' known'
    have hnames : (plan.movedTo uri').names = plan.names := rfl
    rw [hnames] at empty' refused'
    -- both tables refuse their first stripe with rows, if they have any
    cases hitems : (table.feed uri plan.names).flatMap plan.itemsOf with
    | nil =>
      rw [empty'.mp (empty.mpr hitems)]
      exact .done
    | cons item rest =>
      cases hitems' : (table'.feed uri' plan.names).flatMap (plan.movedTo uri').itemsOf with
      | nil => exact absurd (empty.mp (empty'.mpr hitems')) (hitems ▸ List.cons_ne_nil _ _)
      | cons item' rest' =>
        obtain rfl := refused item (hitems ▸ List.mem_cons_self)
        obtain rfl := refused' item' (hitems' ▸ List.mem_cons_self)
        rw [List.mapIdx_cons, List.mapIdx_cons]
        exact .fault (Fault.samePlace_refl (.broken .missingKey)) _ _

end Tables

section Reads

variable {table table' : Table} {site site' : Site} {request request' : ReadRequest}

/-- Two requests ask the same of files that may differ: the same options, types, reader and
partitions. -/
structure ReadRequest.AsksSame (request request' : ReadRequest) : Prop where
  /-- The options are the same. -/
  options_eq : request'.options = request.options
  /-- The types asked for are the same. -/
  target_eq : request'.target = request.target
  /-- The same reader is asked for. -/
  readerName_eq : request'.readerName = request.readerName
  /-- The partitions, given or found in the path, are the same. -/
  partitions_eq : request'.foundPartitions = request.foundPartitions

/-- Two sites with readers of the same names hold tables that hold the same, in files that can be
inspected and are both in the format or neither. -/
structure Site.HoldsSame (site site' : Site) (request request' : ReadRequest)
    (table table' : Table) : Prop where
  /-- One source is a table. -/
  source_eq : site.source = .table table
  /-- The other source is a table. -/
  source_eq' : site'.source = .table table'
  /-- The tables hold the same. -/
  tables : table.HoldsSame table'
  /-- The same readers are registered. -/
  registry_eq : site'.registry = site.registry
  /-- Both files can be inspected, and are in the format or not. -/
  detect_eq : ∃ recognized, (Session.start site request).detect = .ok recognized ∧
    (Session.start site' request').detect = .ok recognized

/-- A file that can be inspected can be read. -/
theorem Session.exists_read_of_detect {recognized : Bool}
    (h : (start site request).detect = .ok recognized) :
    ∃ contents, site.storage.read request.handle = .ok contents := by
  have detected : Sniff.isRecognized site.storage request.handle Sniff.standardWindow =
    .ok recognized := h
  rw [Sniff.isRecognized] at detected
  split at detected
  case h_1 contents read => exact ⟨contents, read⟩
  case h_2 => cases detected
  case h_3 => cases detected

namespace Site.HoldsSame

/-- Readers of the same kind declare the same. -/
theorem endsAs_declares (h : site.HoldsSame site' request request' table table')
    (kind : ReaderKind) :
    (site.declares kind request.handle).EndsAs (· = ·) (site'.declares kind request'.handle) := by
  cases kind with
  | script =>
    rw [declares, declares, h.source_eq, h.source_eq']
    exact Outcome.endsAs_refl _
  | table =>
    obtain ⟨recognized, hdetect, hdetect'⟩ := h.detect_eq
    obtain ⟨_, hread⟩ := Session.exists_read_of_detect hdetect
    obtain ⟨_, hread'⟩ := Session.exists_read_of_detect hdetect'
    rw [declares, declares, hread, hread', h.source_eq, h.source_eq']
    simp only [Source.asTable, Reader.tableSchema, h.tables.refusal_eq, h.tables.fields_eq]
    cases table.refusal with
    | none => exact Outcome.endsAs_refl _
    | some cause =>
      simp only [Reader.openingFault, readerFault]
      split
      · exact Fault.samePlace_report ..
      · exact Outcome.endsAs_refl _

/-- The declared types are told alike. -/
theorem endsAs_nativeSchema (h : site.HoldsSame site' request request' table table')
    (asked : request.AsksSame request') :
    (Session.start site request).nativeSchema.1.EndsAs (· = ·)
      (Session.start site' request').nativeSchema.1 := by
  rw [Session.nativeSchema_start, Session.nativeSchema_start, h.registry_eq, asked.readerName_eq]
  exact Outcome.endsAs_bind _ fun name => (h.endsAs_declares _).addPath _ _

/-- The schemas of the columns are told alike. -/
theorem endsAs_fileSchema (h : site.HoldsSame site' request request' table table')
    (asked : request.AsksSame request') :
    (Session.start site request).fileSchema.1.EndsAs (· = ·)
      (Session.start site' request').fileSchema.1 := by
  rw [Session.fileSchema_start, Session.fileSchema_start, asked.target_eq, asked.options_eq]
  refine (h.endsAs_nativeSchema asked).bind fun native native' same => ?_
  subst same
  exact (Outcome.endsAs_refl _).addPath _ _

/-- The schemas of rows are told alike. -/
theorem endsAs_schema (h : site.HoldsSame site' request request' table table')
    (asked : request.AsksSame request') :
    (Session.start site request).schema.1.EndsAs (· = ·)
      (Session.start site' request').schema.1 := by
  rw [(Session.follows_start (.refl site)).schema_fst,
    (Session.follows_start (.refl site')).schema_fst, asked.partitions_eq]
  refine Outcome.endsAs_bind _ fun partitions =>
    (h.endsAs_fileSchema asked).bind fun columns columns' same => ?_
  subst same
  exact Outcome.endsAs_refl _

/-- The columns of a table that declares a type have declared types. -/
theorem accepted_of_declares (h : site.HoldsSame site' request request' table table')
    {native : NativeType} (given : site.declares .table request.handle = .ok native) :
    ∀ field ∈ table.fields, ∃ native, NativeType.ofColumn field.2 = .ok native := by
  obtain ⟨_, hdetect, _⟩ := h.detect_eq
  obtain ⟨_, hread⟩ := Session.exists_read_of_detect hdetect
  rw [declares, hread, h.source_eq] at given
  simp only [Source.asTable, Reader.tableSchema] at given
  split at given
  · cases given
  · intro field member
    obtain ⟨natives, hnatives, _⟩ := Outcome.bind_eq_ok given
    obtain ⟨place, hplace⟩ := List.mem_iff_getElem?.mp member
    obtain ⟨child, _, hchild⟩ := (NativeType.ofColumns_eq_ok hnatives).2 place field hplace
    exact ⟨child, hchild⟩

/-- What is left of streams of the same columns is the same up to a fault. -/
theorem sameUntilFault_expected (h : site.HoldsSame site' request request' table table')
    (asked : request.AsksSame request') (tableId : Option String)
    (partitions : List String × PartitionMap) (planned : List PlanColumn) :
    SameUntilFault
      ((request.streamOf tableId partitions planned).expected site)
      ((request'.streamOf tableId partitions planned).expected site') := by
  have hplan : (request'.streamOf tableId partitions planned).plan =
      (request.streamOf tableId partitions planned).plan.movedTo request'.handle.uri := by
    rw [ReadRequest.streamOf, ReadRequest.streamOf, asked.options_eq]
    rfl
  have hname : (request'.streamOf tableId partitions planned).readerName =
      (request.streamOf tableId partitions planned).readerName := asked.readerName_eq
  rw [Stream.expected_of_fresh rfl, Stream.expected_of_fresh rfl, h.registry_eq, hname]
  cases site.registry.pick (request.streamOf tableId partitions planned).readerName with
  | error fault => exact .fault fault.samePlace_refl _ _
  | ok name =>
    have hdeclares := h.endsAs_declares (Registry.kindOf name)
    have hhandle : (request.streamOf tableId partitions planned).handle = request.handle := rfl
    have hhandle' : (request'.streamOf tableId partitions planned).handle = request'.handle := rfl
    simp only [hhandle, hhandle']
    cases hgiven : site.declares (Registry.kindOf name) request.handle with
    | error fault =>
      cases hgiven' : site'.declares (Registry.kindOf name) request'.handle with
      | error fault' =>
        rw [hgiven, hgiven'] at hdeclares
        exact .fault (Fault.SamePlace.addPath hdeclares _ _) _ _
      | ok native' =>
        rw [hgiven, hgiven'] at hdeclares
        exact hdeclares.elim
    | ok native =>
      cases hgiven' : site'.declares (Registry.kindOf name) request'.handle with
      | error fault' =>
        rw [hgiven, hgiven'] at hdeclares
        exact hdeclares.elim
      | ok native' =>
        cases hkind : Registry.kindOf name with
        | script =>
          rw [hkind, declares, h.source_eq] at hgiven
          cases hgiven
        | table =>
          rw [hkind] at hgiven
          rw [h.source_eq, h.source_eq', hplan]
          exact h.tables.sameUntilFault_feed (h.accepted_of_declares hgiven) _ _ _

/-- Streams are given alike, and what is left of them is the same up to a fault. -/
theorem endsAs_rows (h : site.HoldsSame site' request request' table table')
    (asked : request.AsksSame request') {session session' : Session}
    (follows : session.Follows site request) (follows' : session'.Follows site' request')
    (tableId : Option String) :
    (session.rows tableId).1.EndsAs (fun stream stream' =>
        stream.progress = .fresh ∧ stream'.progress = .fresh ∧
          SameUntilFault (stream.expected site) (stream'.expected site'))
      (session'.rows tableId).1 := by
  obtain ⟨recognized, hdetect, hdetect'⟩ := h.detect_eq
  rw [follows.rows_fst, follows'.rows_fst, hdetect, hdetect', Outcome.ok_bind, Outcome.ok_bind]
  cases recognized with
  | false => exact Fault.samePlace_report ..
  | true =>
    rw [if_pos rfl, if_pos rfl, asked.partitions_eq]
    refine (h.endsAs_fileSchema asked).bind fun columns columns' same => ?_
    subst same
    refine (h.endsAs_schema asked).bind fun _ _ _ => Outcome.endsAs_bind _ fun partitions => ?_
    refine (h.endsAs_nativeSchema asked).bind fun native native' same => ?_
    subst same
    exact Outcome.endsAs_map _ fun planned =>
      ⟨rfl, rfl, h.sameUntilFault_expected asked tableId partitions planned⟩

end Site.HoldsSame

/-- Rows do not depend on how a table is cut into stripes: of two tables that hold the same, streams
are given alike, their requests are told the same rows in the same order and end at the same place,
and a sink makes the same of them. -/
theorem rows_of_recut {session session' : Session}
    (h : site.HoldsSame site' request request' table table') (asked : request.AsksSame request')
    (follows : session.Follows site request) (follows' : session'.Follows site' request')
    (tableId : Option String) :
    (session.rows tableId).1.EndsAs (fun stream stream' =>
        ∀ (first first' : Site) (later later' : List Site), site.Agrees first →
          site'.Agrees first' → later.length = later'.length →
          List.Forall₂ (Outcome.EndsAs (· = ·)) (stream.calls (first :: later))
            (stream'.calls (first' :: later')))
      (session'.rows tableId).1 ∧
    ∀ (State : Type) (sink : State → Value → Outcome State) (state : State),
      (session.readInto tableId sink state).1 = (session'.readInto tableId sink state).1 ∧
        (session.readInto tableId sink state).2.1.EndsAs (· = ·)
          (session'.readInto tableId sink state).2.1 := by
  have hrows := h.endsAs_rows asked follows follows' tableId
  constructor
  · refine hrows.mono fun stream stream' hleft => ?_
    intro first first' later later' agrees agrees' hlength
    rw [Stream.calls_eq_answers, Stream.calls_eq_answers, stream.expected_of_agrees agrees,
      stream'.expected_of_agrees agrees', hlength]
    exact endsAs_answers hleft.2.2 _
  · intro State sink state
    have hagrees := (follows.same_rows follows tableId).left.agrees
    have hagrees' := (follows'.same_rows follows' tableId).left.agrees
    cases started : session.rows tableId with
    | mk outcome after => cases started' : session'.rows tableId with
      | mk outcome' after' =>
        rw [started, started'] at hrows
        rw [started] at hagrees
        rw [started'] at hagrees'
        cases outcome with
        | error fault => cases outcome' with
          | ok stream' => exact hrows.elim
          | error fault' =>
            rw [Session.readInto, Session.readInto, started, started']
            exact ⟨rfl, hrows⟩
        | ok stream => cases outcome' with
          | error fault' => exact hrows.elim
          | ok stream' =>
            obtain ⟨fresh, fresh', hleft⟩ := hrows
            have hconsume := Session.readInto_eq_consume started fresh sink state
            have hconsume' := Session.readInto_eq_consume started' fresh' sink state
            rw [stream.expected_of_agrees hagrees] at hconsume
            rw [stream'.expected_of_agrees hagrees'] at hconsume'
            obtain ⟨hstate, houtcome⟩ := Prod.mk.inj hconsume
            obtain ⟨hstate', houtcome'⟩ := Prod.mk.inj hconsume'
            rw [hstate, hstate', houtcome, houtcome']
            exact endsAs_consume sink state 0 hleft

end Reads

/-- The columns of visits: the day and the tags. -/
def visitColumns : List (String × ColumnType) :=
  [("day", .date), ("tags", .list (.integer true 32))]

/-- Visits in one stripe; the last day lies beyond the calendar. -/
def visitsTable : Table :=
  ⟨visitColumns,
    [.ok [.integers [some 0, none, some 4000000],
      .list [true, false, true] [0, 2, 2, 3] (.integers [some 1, some 2, none])]], none⟩

/-- The same visits in two stripes and an empty one between them, with other bounds. -/
def visitsRecut : Table :=
  ⟨visitColumns,
    [.ok [.integers [some 0], .list [true] [1, 3] (.integers [none, some 1, some 2])],
     .ok [.integers [], .list [] [0] (.integers [])],
     .ok [.integers [none, some 4000000],
       .list [false, true] [0, 1, 2] (.integers [some 7, none])]], none⟩

/-- The place of the visits. -/
def visitsSite : Site := .start ⟨"/", [("/visits", Sniff.magic)]⟩ (.table visitsTable)

/-- The place of the visits in two stripes, in another file. -/
def recutSite : Site := .start ⟨"/", [("/recut", Sniff.magic)]⟩ (.table visitsRecut)

/-- A read of all visits. -/
def visitsRequest : ReadRequest :=
  ⟨⟨"/visits", "", "/visits", false, .none⟩, .standard, none, some [], none⟩

/-- A read of the visits in two stripes. -/
def recutRequest : ReadRequest :=
  ⟨⟨"/recut", "", "/recut", false, .none⟩, .standard, none, some [], none⟩

/-- However they are cut, the visits are three days and three lists of tags. -/
theorem visitsTable_holdsSame : visitsTable.HoldsSame visitsRecut := by
  have hday : visitsTable.elements? 0 = some [.integer 0, .missing, .integer 4000000] ∧
      visitsRecut.elements? 0 = some [.integer 0, .missing, .integer 4000000] := ⟨rfl, rfl⟩
  have htags : visitsTable.elements? 1 =
        some [.list [.integer 1, .integer 2], .missing, .list [.missing]] ∧
      visitsRecut.elements? 1 =
        some [.list [.integer 1, .integer 2], .missing, .list [.missing]] := ⟨rfl, rfl⟩
  refine ⟨rfl, rfl, ?_, ?_, ⟨?_, ?_⟩, ⟨?_, ?_⟩, ?_⟩
  · simp [visitsTable]
  · simp [visitsRecut]
  · simp [visitsTable, visitColumns]
  · simp [visitsTable, ColumnData.length]
  · simp [visitsRecut, visitColumns]
  · simp [visitsRecut, ColumnData.length]
  · intro place field native hfield _
    match place with
    | 0 => exact ⟨_, hday⟩
    | 1 => exact ⟨_, htags⟩
    | place + 2 => cases hfield

/-- Whichever way the visits are cut, the same rows are read before the day beyond the calendar. -/
theorem rows_of_recut_visits :
    ((Session.start visitsSite visitsRequest).readAll none).1 =
        ((Session.start recutSite recutRequest).readAll none).1 ∧
      ((Session.start visitsSite visitsRequest).readAll none).2.1.EndsAs (· = ·)
        ((Session.start recutSite recutRequest).readAll none).2.1 := by
  have holds : visitsSite.HoldsSame recutSite visitsRequest recutRequest visitsTable visitsRecut :=
    ⟨rfl, rfl, visitsTable_holdsSame, rfl, true, rfl, rfl⟩
  have asked : visitsRequest.AsksSame recutRequest := ⟨rfl, rfl, rfl, rfl⟩
  obtain ⟨_, poured⟩ := rows_of_recut holds asked (Session.follows_start (.refl visitsSite))
    (Session.follows_start (.refl recutSite)) none
  have hread := poured _ (fun rows row => .ok (row :: rows)) []
  generalize Session.start visitsSite visitsRequest = session at hread ⊢
  generalize Session.start recutSite recutRequest = session' at hread ⊢
  exact ⟨congrArg List.reverse hread.1, hread.2⟩

end OrcRows
