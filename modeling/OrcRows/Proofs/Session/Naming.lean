import OrcRows.Proofs.Session.Quiet
import OrcRows.Proofs.Session.Rows
import OrcRows.Proofs.Session.SaysFile

/-!
# Faults that say the file

Every fault of a session says its file, but for three kinds that no one tells it: the registry has
no reader of the name, the partitions do not go with the columns, or the reader has said another
file itself.
-/

namespace OrcRows

section Readers

/-- The faults that a source has its reader raise: those of a script. -/
def Source.Raises (source : Source) (fault : Fault) : Prop :=
  source.asScript.refusal = some fault ∨ .error fault ∈ source.asScript.batches

/-- A fault of a reader: it says no other file, or the source has the reader raise it. -/
def Fault.IsOfReader (source : Source) (uri : String) (fault : Fault) : Prop :=
  fault.AdmitsFile uri ∨ source.Raises fault

/-- A fault of a reader that is told the file says it, unless it says another one. -/
theorem Fault.IsOfReader.told {source : Source} {uri : String} {fault : Fault}
    (h : fault.IsOfReader source uri) :
    (fault.addContext [("path", .text uri)]).SaysFile uri ∨
      source.Raises (fault.addContext [("path", .text uri)]) ∧
        ¬ (fault.addContext [("path", .text uri)]).AdmitsFile uri := by
  by_cases admits : fault.AdmitsFile uri
  · exact .inl admits.saysFile
  · rw [fault.addContext_of_not_admitsFile admits]
    exact .inr ⟨h.resolve_left admits, admits⟩

/-- Names of facts of types are no file. -/
theorem Outcome.AboutTypes.admitsFile {α : Type} {outcome : Outcome α} (h : outcome.AboutTypes)
    (uri : String) : outcome.Ends (Fault.AdmitsFile uri) fun _ => True :=
  h.permit fun _ hm => hm.admitsFile (by decide)

/-- A stripe that cannot be served is reported with the file, or with the type of a column. -/
theorem Table.admitsFile_serveStripe (table : Table) (uri : String) (names : List String)
    (place : Nat) (stripe : Except Breakdown (List ColumnData)) :
    (table.serveStripe uri names place stripe).Ends (Fault.AdmitsFile uri) fun _ => True := by
  cases stripe with
  | error cause => exact Fault.saysFile_readerFault.admitsFile
  | ok arrays =>
    rw [serveStripe]
    split
    · trivial
    · split
      · trivial
      · have hvectors : Outcome.AboutTypes (names.mapM (table.stripeBatch names arrays).vector) :=
          Outcome.Ends.mapM fun name _ => (Outcome.onlyBreaks_ofOption _ _).aboutTypes.bind
            fun column => ColumnVector.aboutTypes_ofColumn _ _
        have hbatch : Outcome.AboutTypes ((table.stripeBatch names arrays).toBatch names) :=
          hvectors.bind fun _ => trivial
        exact Outcome.AboutTypes.admitsFile hbatch.map uri

/-- What a reader finds in a source has no faults but those of a reader. -/
theorem Source.isOfReader_of_mem_feed {source : Source} {kind : ReaderKind} {uri : String}
    {names : List String} {fault : Fault} (h : .error fault ∈ source.feed kind uri names) :
    fault.IsOfReader source uri := by
  cases kind with
  | script =>
    obtain ⟨batch, hbatch, given⟩ := List.mem_map.mp h
    cases batch with
    | ok batch => cases given
    | error raised =>
      injection given with same
      exact .inr (.inr (same ▸ hbatch))
  | table =>
    obtain ⟨place, inside, served⟩ := List.mem_mapIdx.mp h
    have hends :=
      source.asTable.admitsFile_serveStripe uri names place source.asTable.stripes[place]
    rw [served] at hends
    exact .inl hends

/-- A reader that cannot be opened has a fault of a reader. -/
theorem Site.isOfReader_declares (site : Site) (kind : ReaderKind) (handle : Handle) :
    (site.declares kind handle).Ends (Fault.IsOfReader site.source handle.uri)
      fun _ => True := by
  cases kind with
  | script =>
    rw [declares]
    cases refused : site.source.asScript.refusal with
    | none => trivial
    | some fault => exact .inr (.inl refused)
  | table =>
    have hread := site.storage.onlyBreaks_read handle
    rw [declares]
    cases given : site.storage.read handle with
    | error fault =>
      rw [given] at hread
      cases fault with
      | reported report => exact hread.elim
      | broken cause => exact .inl Fault.saysFile_readerFault.admitsFile
    | ok bytes =>
      simp only
      rw [Reader.tableSchema]
      split
      · exact .inl Fault.saysFile_readerFault.admitsFile
      · exact ((NativeType.aboutTypes_ofTable _).admitsFile handle.uri).permit fun _ => .inl

end Readers

/-- How a fault of a request at a site comes to be as it is: it says the file; or no reader of the
name is registered; or the partitions do not go with the columns; or the reader itself says another
file. -/
inductive Fault.IsTold (site : Site) (request : ReadRequest) : Fault → Prop
  /-- The fault says the file. -/
  | file {fault : Fault} (said : fault.SaysFile request.handle.uri) : IsTold site request fault
  /-- The registry has no reader of the name. -/
  | registry {fault : Fault} (refused : site.registry.pick request.readerName = .error fault) :
      IsTold site request fault
  /-- The partitions do not go with the columns. -/
  | partitions {columns : Schema} {partitions : List String × PartitionMap} {fault : Fault}
      (inferred : (Session.start site request).fileSchema.1 = .ok columns)
      (found : request.foundPartitions = .ok partitions)
      (refused : columns.withPartitions partitions.1 = .error fault) : IsTold site request fault
  /-- The reader itself says another file. -/
  | reader {fault : Fault} (raised : site.source.Raises fault)
      (other : ¬ fault.AdmitsFile request.handle.uri) : IsTold site request fault

section Origins

variable {site site' : Site} {request : ReadRequest} {fault : Fault}

/-- Sites that agree have faults of the same origins. -/
theorem Fault.IsTold.of_agrees (h : fault.IsTold site' request) (agrees : site.Agrees site') :
    fault.IsTold site request := by
  have hfile := (Session.follows_start agrees : (Session.start site' request).Follows site
    request).fileSchema.1
  cases h with
  | file said => exact .file said
  | registry refused => exact .registry (agrees.registry_eq ▸ refused)
  | partitions inferred found refused => exact .partitions (hfile ▸ inferred) found refused
  | reader raised other => exact .reader (agrees.source_eq ▸ raised) other

/-- A fault of a reader that is told the file is as it comes to be. -/
theorem Fault.IsOfReader.isTold (h : fault.IsOfReader site.source request.handle.uri) :
    (fault.addContext request.pathFact).IsTold site request :=
  h.told.elim .file fun ⟨raised, other⟩ => .reader raised other

namespace Session

/-- Whether a file is in the format is told, or the file is. -/
theorem saysFile_detect (session : Session) :
    session.detect.Ends (Fault.SaysFile session.uri) fun _ => True := by
  have hread := session.site.storage.onlyBreaks_read session.request.handle
  rw [detect, Sniff.isRecognized]
  split
  · trivial
  · exact Fault.saysFile_report
  · rename_i fault _ given
    rw [given] at hread
    cases fault with
    | reported report => exact hread.elim
    | broken cause => trivial

/-- The declared type is told, or how its fault comes to be. -/
theorem isTold_nativeSchema (site : Site) (request : ReadRequest) :
    (start site request).nativeSchema.1.Ends (Fault.IsTold site request) fun _ => True := by
  rw [nativeSchema_start]
  cases refused : site.registry.pick request.readerName with
  | error fault => exact .registry refused
  | ok name =>
    have hreader := site.isOfReader_declares (Registry.kindOf name) request.handle
    rw [Outcome.ok_bind]
    cases given : site.declares (Registry.kindOf name) request.handle with
    | ok native => trivial
    | error fault =>
      rw [given] at hreader
      exact Fault.IsOfReader.isTold hreader

/-- The schema of the columns is told, or how its fault comes to be. -/
theorem isTold_fileSchema (site : Site) (request : ReadRequest) :
    (start site request).fileSchema.1.Ends (Fault.IsTold site request) fun _ => True := by
  rw [fileSchema_start]
  refine (isTold_nativeSchema site request).bind fun native _ => ?_
  have habout := native.aboutTypes_inferSchema request.target request.options.selected
  cases given : native.inferSchema request.target request.options.selected with
  | ok columns => trivial
  | error fault =>
    rw [given] at habout
    exact .file (Fault.Mentions.admitsFile habout (by decide)).saysFile

/-- The schema of rows is told, or how its fault comes to be. -/
theorem isTold_schema (site : Site) (request : ReadRequest) :
    (start site request).schema.1.Ends (Fault.IsTold site request) fun _ => True := by
  rw [(follows_start (.refl site)).schema_fst]
  have hfound := request.onlyBreaks_foundPartitions
  have hfile := isTold_fileSchema site request
  cases found : request.foundPartitions with
  | error fault =>
    rw [found] at hfound
    cases fault with
    | reported report => exact hfound.elim
    | broken cause => exact .file trivial
  | ok partitions =>
    rw [Outcome.ok_bind]
    cases inferred : (start site request).fileSchema.1 with
    | error fault =>
      rw [inferred] at hfile
      exact hfile
    | ok columns =>
      rw [Outcome.ok_bind]
      cases refused : columns.withPartitions partitions.1 with
      | error fault => exact .partitions inferred found refused
      | ok schema => trivial

end Session

/-- The fault of a cell says column, row and file. -/
theorem ReadPlan.saysFile_located {plan : ReadPlan} {index : Nat} {column : PlanColumn}
    {vector : Option ColumnVector} (failing : plan.cellOf index column vector = .error fault)
    (emitted : Nat) : (plan.located column.name emitted fault).SaysFile plan.uri := by
  have hmentions : fault.Mentions cellFacts := by
    cases vector with
    | none => cases failing
    | some vector =>
      have habout := aboutCell_cell plan.policy vector column.declared (some column.type) index
      rw [cellOf] at failing
      rwa [failing] at habout
  have hmore : (fault.addContext
      [("column", .text column.name), ("file_row", .int emitted)]).Mentions
      (cellFacts ++ ["column", "file_row"]) :=
    Fault.Mentions.addContext (hmentions.mono (List.subset_append_left _ _)) (by simp)
  rw [← addContext_eq_located hmentions]
  exact (hmore.admitsFile (by decide)).saysFile

namespace Stream

/-- The faults among the items of a stream are those of its reader, or of a batch that does not fit
the plan. -/
theorem isOfReader_of_mem_items {stream : Stream} (huri : stream.plan.uri = stream.handle.uri)
    {items : List FeedItem} (h : stream.items site = .ok items) (member : .fault fault ∈ items) :
    fault.IsOfReader site.source stream.handle.uri := by
  obtain ⟨name, _, rfl⟩ := items_eq_ok h
  have hdeclares := site.isOfReader_declares (Registry.kindOf name) stream.handle
  cases given : site.declares (Registry.kindOf name) stream.handle with
  | error refused =>
    rw [given] at member hdeclares
    cases List.mem_singleton.mp member
    exact hdeclares
  | ok native =>
    rw [given] at member
    obtain ⟨served, hserved, hitem⟩ := List.mem_flatMap.mp member
    rw [ReadPlan.itemsOf.eq_def] at hitem
    split at hitem
    · cases List.mem_singleton.mp hitem
      exact Source.isOfReader_of_mem_feed hserved
    · cases hitem
    · split at hitem
      · obtain ⟨_, _, row⟩ := List.mem_map.mp hitem
        cases row
      · cases List.mem_singleton.mp hitem
        exact .inl (huri ▸ Fault.saysFile_report.admitsFile)

/-- What is left of a stream of a request has faults that come to be as faults of the request. -/
theorem isTold_of_mem_expected (tableId : Option String)
    (partitions : List String × PartitionMap) (planned : List PlanColumn)
    (member : .error fault ∈ (request.streamOf tableId partitions planned).expected site) :
    fault.IsTold site request := by
  have fresh : (request.streamOf tableId partitions planned).progress = .fresh := rfl
  rw [expected, fresh] at member
  cases given : (request.streamOf tableId partitions planned).items site with
  | error refused =>
    rw [given] at member
    cases List.mem_singleton.mp member
    exact .registry (items_eq_error given)
  | ok items =>
    rw [given] at member
    obtain ⟨place, inside, resolved⟩ := List.mem_mapIdx.mp member
    have hitem : items[place] ∈ items := List.getElem_mem inside
    have hgives := gives_of_mem_items given hitem place
    rw [resolved] at hgives
    generalize items[place] = item at hitem hgives
    cases hgives with
    | cell planned served failing before => exact .file (ReadPlan.saysFile_located failing place)
    | fault => exact (isOfReader_of_mem_items rfl given hitem).isTold

end Stream

/-- An answer to a request of outcomes is the end, or one of the outcomes. -/
theorem mem_of_error_mem_answers {count : Nat} {expected : List (Outcome Value)}
    (h : .error fault ∈ answers count expected) : .error fault ∈ expected := by
  induction count generalizing expected with
  | zero => cases h
  | succ count ih =>
    cases expected with
    | nil =>
      rw [answers, List.mem_cons] at h
      rcases h with same | later
      · cases same
      · exact absurd (ih later) List.not_mem_nil
    | cons first rest =>
      cases first with
      | ok row =>
        rw [answers, List.mem_cons] at h
        rcases h with same | later
        · cases same
        · exact List.mem_cons_of_mem _ (ih later)
      | error other =>
        rw [answers, List.mem_cons] at h
        rcases h with same | later
        · injection same with same
          exact same ▸ List.mem_cons_self
        · exact absurd (ih later) List.not_mem_nil

/-- A fault of what is handed to a sink is among the outcomes or is the sink's own. -/
theorem consume_eq_error {State : Type} {sink : State → Value → Outcome State} {state : State}
    {taken : Nat} {expected : List (Outcome Value)}
    (h : (consume sink state taken expected).2 = .error fault) :
    .error fault ∈ expected ∨ ∃ before row, sink before row = .error fault := by
  induction expected generalizing state taken with
  | nil => cases h
  | cons first rest ih =>
    cases first with
    | error other =>
      injection h with same
      exact .inl (same ▸ List.mem_cons_self)
    | ok row =>
      rw [consume] at h
      cases taken' : sink state row with
      | error other =>
        rw [taken'] at h
        injection h with same
        exact .inr ⟨state, row, same ▸ taken'⟩
      | ok next =>
        rw [taken'] at h
        exact (ih h).imp (List.mem_cons_of_mem _) id

/-- A stream of rows is one of its request, and a fault in its place comes to be as faults of the
request. -/
theorem Session.Follows.isTold_rows {session : Session} (h : session.Follows site request)
    (tableId : Option String) :
    (session.rows tableId).1.Ends (Fault.IsTold site request) fun stream =>
      ∃ partitions planned, stream = request.streamOf tableId partitions planned := by
  have hdetect := (start site request).saysFile_detect
  have hfound := request.onlyBreaks_foundPartitions
  rw [h.rows_fst]
  refine Outcome.Ends.bind (hdetect.permit fun _ => .file) fun recognized _ => ?_
  cases recognized with
  | false => exact .file Fault.saysFile_report
  | true =>
    refine (isTold_fileSchema site request).bind fun columns _ => ?_
    refine (isTold_schema site request).bind fun _ _ => ?_
    refine (hfound.ends (fun _ => .file trivial) fun _ _ => trivial).bind fun partitions _ => ?_
    refine (isTold_nativeSchema site request).bind fun native _ => ?_
    exact ((onlyBreaks_planColumns native columns).ends (fun _ => .file trivial)
      fun _ _ => trivial).map fun planned _ => ⟨partitions, planned, rfl⟩

end Origins

/-- Every fault of a session, of its streams at whatever sites, and of a read that is not the sink's
own says its file, but for those that no one tells it: no reader of the name is registered, the
partitions do not go with the columns, or the reader itself says another file. -/
theorem Session.Follows.faults_isTold {session : Session} {site : Site} {request : ReadRequest}
    (h : session.Follows site request) (tableId : Option String) :
    session.detect.Ends (Fault.SaysFile request.handle.uri) (fun _ => True) ∧
    session.schema.1.Ends (Fault.IsTold site request) (fun _ => True) ∧
    (session.rows tableId).1.Ends (Fault.IsTold site request) (fun stream =>
      ∀ (first : Site) (sites : List Site), ∀ outcome ∈ stream.calls (first :: sites),
        outcome.Ends (Fault.IsTold first request) fun _ => True) ∧
    ∀ (State : Type) (sink : State → Value → Outcome State) (state : State),
      (session.readInto tableId sink state).2.1.Ends (fun fault => fault.IsTold site request ∨
        ∃ before row, sink before row = .error fault) fun _ => True := by
  have hrows := h.isTold_rows tableId
  refine ⟨?_, ?_, ?_, fun State sink state => ?_⟩
  · rw [h.detect_eq]
    exact (start site request).saysFile_detect
  · rw [(h.same_schema (follows_start (.refl site))).outcome_eq]
    exact isTold_schema site request
  · refine hrows.mono fun stream ⟨partitions, planned, made⟩ first sites outcome member => ?_
    rw [made, Stream.calls_eq_answers] at member
    cases outcome with
    | ok row => trivial
    | error fault =>
      exact Stream.isTold_of_mem_expected tableId partitions planned
        (mem_of_error_mem_answers member)
  · have hleft := (h.same_rows h tableId).left
    cases started : session.rows tableId with
    | mk outcome session' =>
      rw [started] at hrows hleft
      cases outcome with
      | error fault =>
        rw [Session.readInto, started]
        exact .inl hrows
      | ok stream =>
        obtain ⟨partitions, planned, rfl⟩ := hrows
        have hconsume := readInto_eq_consume started rfl sink state
        rw [(Prod.mk.inj hconsume).2]
        cases poured : (consume sink state 0
            ((request.streamOf tableId partitions planned).expected session'.site)).2 with
        | ok count => trivial
        | error fault =>
          refine (consume_eq_error poured).imp (fun member => ?_) id
          exact (Stream.isTold_of_mem_expected tableId partitions planned member).of_agrees
            hleft.agrees

/-- The place of a table whose only column is a year. -/
def yearsSite : Site :=
  .start ⟨"/", [("/years", Sniff.magic)]⟩ (.table ⟨[("year", .integer true 32)], [], none⟩)

/-- A read of the table with a partition that is a year too. -/
def yearsRequest : ReadRequest :=
  ⟨⟨"/years", "", "/years", false, .none⟩, .standard, none, some [("year", some "2023")], none⟩

/-- The refused partition comes to be as faults of the request. -/
theorem faults_isTold_years :
    ∃ fault, (Session.start yearsSite yearsRequest).schema.1 = .error fault ∧
      fault.IsTold yearsSite yearsRequest := by
  have follows : (Session.start yearsSite yearsRequest).Follows yearsSite yearsRequest :=
    Session.follows_start (.refl yearsSite)
  obtain ⟨_, hschema, _, _⟩ := follows.faults_isTold none
  have refused : (Session.start yearsSite yearsRequest).schema.1 = .error (.report .illegalArgument
    "partition column collides with a file column" [("column", .text "year")]) := by rfl
  rw [refused] at hschema
  exact ⟨_, refused, hschema⟩

/-- The report of the refused partition names the column, and no file: asked for the schema, and
asked for rows. -/
theorem years_refused_without_file :
    ∃ report, (Session.start yearsSite yearsRequest).schema.1 = .error (.reported report) ∧
      ((Session.start yearsSite yearsRequest).rows none).1 = .error (.reported report) ∧
      report.context = [("column", .text "year")] ∧
      ¬ (Fault.reported report).SaysFile yearsRequest.handle.uri :=
  ⟨.of .illegalArgument "partition column collides with a file column" [("column", .text "year")],
    by rfl, by rfl, by rfl, fun said => by cases said⟩

end OrcRows
