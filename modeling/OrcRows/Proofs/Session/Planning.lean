import OrcRows.Proofs.Mapping.Columns
import OrcRows.Proofs.Session.Renewal

/-!
# Answers as outcomes

What a session answers depends on the session only through what a new one would be told, so answers
can be followed as outcomes, without the sessions in between. Reading is opening, then planning: the
declared type is what a reader declares at a site, and a stream is made from the schema of the
columns, the partitions and the declared type.
-/

namespace OrcRows

/-- What goes on after an answer sees its value and its session. -/
theorem Answer.andThen_fst {α β : Type} {answer : Answer α} {next : α → Session → Answer β}
    {outcome : Outcome α} {rest : α → Outcome β} (h : answer.1 = outcome)
    (hn : ∀ value, (next value answer.2).1 = rest value) :
    (answer.andThen next).1 = outcome >>= rest := by
  obtain ⟨given, session⟩ := answer
  cases given with
  | ok value =>
    rw [← h]
    exact hn value
  | error fault =>
    rw [← h]
    rfl

/-- What a new reader of a kind declares at a site, or why it cannot be opened. -/
def Site.declares (site : Site) (kind : ReaderKind) (handle : Handle) : Outcome NativeType :=
  match kind with
  | .script =>
    match site.source.asScript.refusal with
    | some fault => .error fault
    | none => .ok site.source.asScript.schema
  | .table =>
    match site.storage.read handle with
    | .error (.broken cause) => .error (Reader.openingFault handle cause)
    | .error fault => .error fault
    | .ok _ => Reader.tableSchema handle site.source.asTable

/-- What a reader of a kind finds in a source for a projection. -/
def Source.feed (source : Source) (kind : ReaderKind) (uri : String) (names : List String) : Feed :=
  match kind with
  | .script => source.asScript.batches.map fun batch => batch.map some
  | .table => source.asTable.feed uri names

namespace Site

/-- A reader serves what it finds, unless it cannot be opened. -/
theorem serves_eq_map (site : Site) (kind : ReaderKind) (handle : Handle) (names : List String) :
    site.serves kind handle names =
      (site.declares kind handle).map fun _ => site.source.feed kind handle.uri names := by
  cases kind with
  | script =>
    rw [serves, declares]
    cases site.source.asScript.refusal <;> rfl
  | table =>
    rw [serves, declares]
    cases site.storage.read handle with
    | error fault => cases fault <;> rfl
    | ok bytes => rfl

/-- Opening a reader that was made gives what it declares. -/
theorem acquire_make (site : Site) (kind : ReaderKind) (handle : Handle) :
    ((Reader.make kind handle site).1.acquire (Reader.make kind handle site).2).1.map (·.2) =
      site.declares kind handle := by
  cases kind with
  | script =>
    simp only [declares, Reader.make, Reader.acquire, Reader.openScript, countBuilt, countAcquired]
    cases site.source.asScript.refusal <;> rfl
  | table =>
    simp only [declares, Reader.make, Reader.acquire, Reader.openTable, countBuilt]
    cases site.storage.read handle with
    | error fault => cases fault <;> rfl
    | ok bytes =>
      simp only
      cases Reader.tableSchema handle site.source.asTable <;> rfl

end Site

namespace Stream

variable {stream : Stream} {site : Site}

/-- A stream without items has no reader. -/
theorem items_eq_error {fault : Fault} (h : stream.items site = .error fault) :
    site.registry.pick stream.readerName = .error fault := by
  rw [items] at h
  cases picked : site.registry.pick stream.readerName with
  | error refused =>
    rw [picked] at h
    injection h with same
    rw [same]
  | ok name =>
    rw [picked] at h
    cases h

/-- The items of a stream are those of what its reader finds, or the fault for which the reader
cannot be opened. -/
theorem items_eq_ok {items : List FeedItem} (h : stream.items site = .ok items) :
    ∃ name, site.registry.pick stream.readerName = .ok name ∧
      items = match site.declares (Registry.kindOf name) stream.handle with
        | .error fault => [.fault fault]
        | .ok _ => (site.source.feed (Registry.kindOf name) stream.handle.uri
            stream.plan.names).flatMap stream.plan.itemsOf := by
  rw [Stream.items] at h
  cases picked : site.registry.pick stream.readerName with
  | error refused =>
    rw [picked] at h
    cases h
  | ok name =>
    rw [picked] at h
    injection h with same
    refine ⟨name, rfl, ?_⟩
    rw [← same]
    simp only [Site.serves_eq_map]
    cases site.declares (Registry.kindOf name) stream.handle <;> rfl

/-- What is left of a new stream is what its reader gives, or why there is none. -/
theorem expected_of_fresh (h : stream.progress = .fresh) :
    stream.expected site =
      match site.registry.pick stream.readerName with
      | .error fault => [.error fault]
      | .ok name =>
        match site.declares (Registry.kindOf name) stream.handle with
        | .error fault => [.error (fault.addContext stream.plan.pathFact)]
        | .ok _ => ((site.source.feed (Registry.kindOf name) stream.handle.uri
            stream.plan.names).flatMap stream.plan.itemsOf).mapIdx stream.plan.resolve := by
  rw [expected, h, items]
  cases site.registry.pick stream.readerName with
  | error fault => rfl
  | ok name =>
    simp only [Except.map, Site.serves_eq_map]
    cases site.declares (Registry.kindOf name) stream.handle <;> rfl

end Stream

namespace ReadRequest

/-- The location of the file as a fact. -/
def pathFact (request : ReadRequest) : List (String × Value) := [("path", .text request.handle.uri)]

/-- The fault of a file that is not in the format. -/
def notRecognized (request : ReadRequest) : Fault :=
  .report .fileTypeInvalid "this file is not an orc file, please check the format of this file"
    request.pathFact

/-- The stream of a request for partitions and planned columns. -/
def streamOf (request : ReadRequest) (tableId : Option String)
    (partitions : List String × PartitionMap) (planned : List PlanColumn) : Stream :=
  ⟨⟨request.handle.uri, request.options.textPolicy, planned,
    partitions.2.values partitions.1, tableId⟩, request.handle, request.readerName, .fresh⟩

end ReadRequest

namespace Session

variable {session : Session} {site : Site} {request : ReadRequest}

/-- A probe finds what a reader declares; a report says the file. -/
theorem probe_fst (session : Session) (kind : ReaderKind) :
    (session.probe kind).1 =
      (session.site.declares kind session.request.handle).addContext session.pathFact := by
  have hacquire := session.site.acquire_make kind session.request.handle
  rw [probe, ← hacquire]
  cases Reader.make kind session.request.handle session.site with
  | mk reader between =>
    simp only
    cases reader.acquire between with
    | mk opened last => cases opened <;> rfl

/-- The declared type that a new session is told is the one of the reader that the registry
picks. -/
theorem nativeSchema_start (site : Site) (request : ReadRequest) :
    (start site request).nativeSchema.1 =
      site.registry.pick request.readerName >>= fun name =>
        (site.declares (Registry.kindOf name) request.handle).addContext request.pathFact := by
  have unknown : (start site request).native = none := rfl
  have hsite : (start site request).site = site := rfl
  have hrequest : (start site request).request = request := rfl
  rw [nativeSchema, unknown, hsite, hrequest]
  simp only
  cases site.registry.pick request.readerName with
  | error fault => rfl
  | ok name =>
    have hprobe := (start site request).probe_fst (Registry.kindOf name)
    rw [hsite, hrequest] at hprobe
    rw [Outcome.ok_bind]
    refine Eq.trans ?_ hprobe
    simp only
    cases (start site request).probe (Registry.kindOf name) with
    | mk outcome after => cases outcome <;> rfl

/-- The schema of the columns that a new session is told is inferred from the declared type. -/
theorem fileSchema_start (site : Site) (request : ReadRequest) :
    (start site request).fileSchema.1 =
      (start site request).nativeSchema.1 >>= fun native =>
        (native.inferSchema request.target request.options.selected).addContext request.pathFact :=
  fileSchema_of_unknown rfl (follows_start (.refl site)).nativeSchema.2.request_eq

/-- The partitions are told as they are found. -/
theorem Follows.resolvePartitions_fst (h : session.Follows site request) :
    session.resolvePartitions.1 = request.foundPartitions := by
  have unknown : (start site request).partitions = none := rfl
  obtain ⟨agreed, _, hfound⟩ := resolvePartitions_of_unknown unknown
  rw [h.resolvePartitions.1, hfound]
  rfl

/-- The schema of rows is that of the columns with the partitions behind. -/
theorem Follows.schema_fst (h : session.Follows site request) :
    session.schema.1 = request.foundPartitions >>= fun partitions =>
      (start site request).fileSchema.1 >>= fun columns => columns.withPartitions partitions.1 :=
  Answer.andThen_fst h.resolvePartitions_fst fun _ =>
    Answer.andThen_fst h.resolvePartitions.2.fileSchema.1 fun _ => rfl

/-- A stream is given for a file in the format, made from the schema of the columns, the partitions
and the declared type, once the schema of rows is known to be one. -/
theorem Follows.rows_fst (h : session.Follows site request) (tableId : Option String) :
    (session.rows tableId).1 = (start site request).detect >>= fun recognized =>
      if recognized then
        (start site request).fileSchema.1 >>= fun columns =>
          (start site request).schema.1 >>= fun _ =>
            request.foundPartitions >>= fun partitions =>
              (start site request).nativeSchema.1 >>= fun native =>
                (planColumns native columns).map (request.streamOf tableId partitions)
      else .error request.notRecognized := by
  rw [rows, h.detect_eq]
  cases (start site request).detect with
  | error fault => rfl
  | ok recognized =>
    cases recognized with
    | false =>
      have hpath : session.pathFact = request.pathFact := by
        rw [pathFact, uri, h.request_eq, ReadRequest.pathFact]
      simp only [hpath]
      rfl
    | true =>
      have hc := h.fileSchema
      refine Answer.andThen_fst hc.1 fun columns => ?_
      have hs := hc.2.same_schema (follows_start (.refl site))
      refine Answer.andThen_fst hs.outcome_eq fun _ => ?_
      have hp := hs.left.resolvePartitions
      refine Answer.andThen_fst hs.left.resolvePartitions_fst fun partitions => ?_
      have hn := hp.2.nativeSchema
      refine Answer.andThen_fst hn.1 fun native => ?_
      simp only [uri, hn.2.request_eq]
      rfl

/-- A stream is given exactly if the file is in the format and schema, partitions and plan are
there. -/
theorem Follows.rows_eq_ok_iff (h : session.Follows site request) {tableId : Option String}
    {stream : Stream} :
    (session.rows tableId).1 = .ok stream ↔
      (start site request).detect = .ok true ∧
      ∃ columns partitions schema native planned,
        (start site request).fileSchema.1 = .ok columns ∧
        request.foundPartitions = .ok partitions ∧
        columns.withPartitions partitions.1 = .ok schema ∧
        (start site request).nativeSchema.1 = .ok native ∧
        planColumns native columns = .ok planned ∧
        request.streamOf tableId partitions planned = stream := by
  have hschema := (follows_start (.refl site) : (start site request).Follows site
    request).schema_fst
  rw [h.rows_fst, hschema]
  constructor
  · intro given
    obtain ⟨recognized, hdetect, given⟩ := Outcome.bind_eq_ok given
    cases recognized with
    | false => cases given
    | true =>
      obtain ⟨columns, hcolumns, given⟩ := Outcome.bind_eq_ok given
      obtain ⟨schema, hwhole, given⟩ := Outcome.bind_eq_ok given
      obtain ⟨partitions, hpartitions, given⟩ := Outcome.bind_eq_ok given
      obtain ⟨native, hnative, given⟩ := Outcome.bind_eq_ok given
      obtain ⟨planned, hplanned, given⟩ := Outcome.bind_eq_ok given
      injection given with made
      rw [hpartitions, Outcome.ok_bind, hcolumns, Outcome.ok_bind] at hwhole
      exact ⟨hdetect, columns, partitions, schema, native, planned, hcolumns, hpartitions, hwhole,
        hnative, hplanned, made⟩
  · rintro ⟨hdetect, columns, partitions, schema, native, planned, hcolumns, hpartitions, hwhole,
      hnative, hplanned, made⟩
    rw [hdetect, Outcome.ok_bind, if_pos rfl, hcolumns, Outcome.ok_bind, hpartitions,
      Outcome.ok_bind, Outcome.ok_bind, hwhole, Outcome.ok_bind, Outcome.ok_bind, hnative,
      Outcome.ok_bind, hplanned, ← made]
    rfl

/-- The columns of a schema that was inferred can be planned. -/
theorem exists_planColumns {native : NativeType} {columns : Schema} {target : Option Schema}
    {selected : Option (List String)} (inferred : native.inferSchema target selected = .ok columns) :
    ∃ planned, planColumns native columns = .ok planned := by
  refine Outcome.exists_mapM_eq_ok fun (name, type) member => ?_
  obtain ⟨declared, _, known, _⟩ := NativeType.inferSchema_eq_ok inferred member
  exact ⟨⟨name, declared, type⟩, by simp only [known]; rfl⟩

/-- A stream is given for a file in the format once a schema of its rows is told. -/
theorem Follows.exists_rows (h : session.Follows site request) {schema : Schema}
    (recognized : session.detect = .ok true) (typed : session.schema.1 = .ok schema)
    (tableId : Option String) :
    ∃ stream session', session.rows tableId = (.ok stream, session') := by
  rw [h.detect_eq] at recognized
  rw [h.schema_fst] at typed
  obtain ⟨partitions, found, typed⟩ := Outcome.bind_eq_ok typed
  obtain ⟨columns, told, whole⟩ := Outcome.bind_eq_ok typed
  have hcolumns := told
  rw [fileSchema_start] at hcolumns
  obtain ⟨native, declared, hcolumns⟩ := Outcome.bind_eq_ok hcolumns
  obtain ⟨planned, plan⟩ : ∃ planned, planColumns native columns = .ok planned := by
    cases inferred : native.inferSchema request.target request.options.selected with
    | error fault =>
      rw [inferred] at hcolumns
      cases hcolumns
    | ok given =>
      rw [inferred] at hcolumns
      injection hcolumns with same
      exact exists_planColumns (same ▸ inferred)
  have given : (session.rows tableId).1 = .ok (request.streamOf tableId partitions planned) :=
    h.rows_eq_ok_iff.mpr ⟨recognized, columns, partitions, schema, native, planned, told, found,
      whole, declared, plan, rfl⟩
  exact ⟨_, _, Prod.ext given rfl⟩

end Session

/-- What is left of a stream is the same at sites that agree. -/
theorem Stream.expected_of_agrees (stream : Stream) {site site' : Site}
    (h : site.Agrees site') : stream.expected site' = stream.expected site := by
  have hserves : ∀ kind, site'.serves kind stream.handle stream.plan.names =
      site.serves kind stream.handle stream.plan.names := by
    intro kind
    cases kind with
    | script => rw [Site.serves, Site.serves, h.source_eq]
    | table => rw [Site.serves, Site.serves, h.storage_eq, h.source_eq]
  have hitems : stream.items site' = stream.items site := by
    simp only [Stream.items, hserves, h.registry_eq]
  rw [expected, expected, hitems]

end OrcRows
