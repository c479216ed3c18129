import OrcRows.Proofs.Session.Contents

/-!
# Sessions that answer like new ones

A session keeps what it was told, in an order that depends on what it was asked. `Session.Follows`
says that all it keeps is what a new session would be told too. Every question keeps this and is
answered as a new session answers it, so the order of questions makes no difference.
-/

namespace OrcRows

/-- The partitions that a request leads to: those that the caller gives, or those of the path. -/
def ReadRequest.foundPartitions (request : ReadRequest) : Outcome (List String × PartitionMap) :=
  match request.partitions with
  | some given => .ok (given.names, given)
  | none =>
    if request.options.mergesPartitions then
      (Partition.ofPath request.handle.uri request.options.definitions).2.map fun values =>
        (request.options.partitionNames, values)
    else .ok ([], [])

namespace Session

/-- A session keeps only what a new session would be told, and stands at a site that agrees with the
site of the new one. -/
structure Follows (session : Session) (site : Site) (request : ReadRequest) : Prop where
  /-- The same is asked. -/
  request_eq : session.request = request
  /-- The sites agree. -/
  agrees : site.Agrees session.site
  /-- A new session would be told the declared type. -/
  native_told : ∀ native, session.native = some native →
    (start site request).nativeSchema.1 = .ok native
  /-- A new session would be told the schema of the columns. -/
  columns_told : ∀ columns, session.columns = some columns →
    (start site request).fileSchema.1 = .ok columns
  /-- A new session would be told the partitions. -/
  partitions_told : ∀ partitions, session.partitions = some partitions →
    (start site request).resolvePartitions.1 = .ok partitions

variable {session session' : Session} {site site' : Site} {request : ReadRequest}

/-- A new session at a site that agrees follows a new session: it keeps nothing. -/
theorem follows_start (h : site.Agrees site') : (start site' request).Follows site request := by
  refine ⟨rfl, h, fun native known => ?_, fun columns known => ?_, fun partitions known => ?_⟩
  · cases known
  · cases known
  · cases known

/-- A session goes on following at a site that agrees. -/
theorem Follows.withSite (h : session.Follows site request) (ha : session.site.Agrees site') :
    (session.withSite site').Follows site request :=
  ⟨h.request_eq, h.agrees.trans ha, h.native_told, h.columns_told, h.partitions_told⟩

/-- A probe is written to the ledger alone. -/
theorem agrees_probe (session : Session) (kind : ReaderKind) :
    session.site.Agrees (session.probe kind).2 := by
  have hmake := Reader.agrees_make kind session.request.handle session.site
  rw [probe]
  cases hmade : Reader.make kind session.request.handle session.site with
  | mk reader between =>
    rw [hmade] at hmake
    have hacquire := reader.agrees_acquire between
    simp only
    cases hacquired : reader.acquire between with
    | mk opened last =>
      rw [hacquired] at hacquire
      have hopen := hmake.trans hacquire
      cases opened with
      | error fault => exact hopen.trans (reader.agrees_release last)
      | ok opened => exact hopen.trans (opened.1.agrees_release last)

/-- A probe finds the same at sites that agree. -/
theorem probe_eq (hr : session'.request = session.request) (ha : session.site.Agrees session'.site)
    (kind : ReaderKind) : (session'.probe kind).1 = (session.probe kind).1 := by
  have hagree := ((Reader.agrees_make kind session.request.handle session.site).symm.trans ha).trans
    (Reader.agrees_make kind session.request.handle session'.site)
  have hmake := Reader.make_eq ha kind session.request.handle
  rw [probe, probe, pathFact, pathFact, uri, uri, hr]
  cases hmade : Reader.make kind session.request.handle session.site with
  | mk reader between =>
    cases hmade' : Reader.make kind session.request.handle session'.site with
    | mk reader' between' =>
      rw [hmade, hmade'] at hagree hmake
      obtain rfl : reader' = reader := hmake
      have hacquire := reader'.acquire_eq hagree
      simp only
      cases hacquired : reader'.acquire between with
      | mk opened last =>
        cases hacquired' : reader'.acquire between' with
        | mk opened' last' =>
          rw [hacquired, hacquired'] at hacquire
          obtain rfl : opened' = opened := hacquire
          cases opened' with
          | error fault => rfl
          | ok opened => rfl

/-- Whether the file is in the format is told as a new session is told. -/
theorem Follows.detect_eq (h : session.Follows site request) :
    session.detect = (start site request).detect := by
  rw [detect, detect, h.request_eq, h.agrees.storage_eq]
  rfl

/-- The declared type is told as a new session is told. -/
theorem Follows.nativeSchema (h : session.Follows site request) :
    session.nativeSchema.1 = (start site request).nativeSchema.1 ∧
      session.nativeSchema.2.Follows site request := by
  cases hnative : session.native with
  | some native =>
    rw [nativeSchema_of_known hnative]
    exact ⟨(h.native_told native hnative).symm, h⟩
  | none =>
    have hnew : (start site request).native = none := rfl
    have hpick : session.site.registry.pick session.request.readerName =
        (start site request).site.registry.pick (start site request).request.readerName := by
      rw [h.request_eq, h.agrees.registry_eq]
      rfl
    have htold : session.nativeSchema.1 = (start site request).nativeSchema.1 := by
      rw [Session.nativeSchema, Session.nativeSchema, hnative, hnew, hpick]
      simp only
      cases (start site request).site.registry.pick (start site request).request.readerName with
      | error fault => rfl
      | ok name =>
        have hprobe : (session.probe (Registry.kindOf name)).1 =
            ((start site request).probe (Registry.kindOf name)).1 :=
          probe_eq h.request_eq h.agrees _
        simp only
        cases hleft : session.probe (Registry.kindOf name) with
        | mk outcome after =>
          cases hright : (start site request).probe (Registry.kindOf name) with
          | mk outcome' after' =>
            rw [hleft, hright] at hprobe
            obtain rfl : outcome = outcome' := hprobe
            cases outcome <;> rfl
    refine ⟨htold, ?_⟩
    rw [Session.nativeSchema, hnative] at htold ⊢
    simp only at htold ⊢
    cases hname : session.site.registry.pick session.request.readerName with
    | error fault => exact h
    | ok name =>
      have hagrees := session.agrees_probe (Registry.kindOf name)
      rw [hname] at htold
      simp only at htold ⊢
      cases hprobed : session.probe (Registry.kindOf name) with
      | mk outcome after =>
        rw [hprobed] at hagrees htold
        cases outcome with
        | error fault => exact h.withSite hagrees
        | ok native =>
          refine ⟨h.request_eq, h.agrees.trans hagrees, fun known same => ?_, h.columns_told,
            h.partitions_told⟩
          cases same
          exact htold.symm

/-- A schema that is not known is inferred from the declared type. -/
theorem fileSchema_of_unknown (hc : session.columns = none)
    (hr : session.nativeSchema.2.request = session.request) :
    session.fileSchema.1 = session.nativeSchema.1 >>= fun native =>
      (native.inferSchema session.request.target session.request.options.selected).addContext
        session.pathFact := by
  rw [Session.fileSchema, hc]
  cases hnative : session.nativeSchema with
  | mk outcome between =>
    rw [hnative] at hr
    cases outcome with
    | error fault => rfl
    | ok native =>
      simp only [Answer.andThen, Outcome.ok_bind, pathFact, uri] at hr ⊢
      rw [hr]
      cases Outcome.addContext _ _ <;> rfl

/-- The schema of the columns is told as a new session is told. -/
theorem Follows.fileSchema (h : session.Follows site request) :
    session.fileSchema.1 = (start site request).fileSchema.1 ∧
      session.fileSchema.2.Follows site request := by
  cases hcolumns : session.columns with
  | some columns =>
    rw [fileSchema_of_known hcolumns]
    exact ⟨(h.columns_told columns hcolumns).symm, h⟩
  | none =>
    have hnew := (follows_start (.refl site) : (start site request).Follows site request)
    obtain ⟨hnative, hafter⟩ := h.nativeSchema
    obtain ⟨_, hnewAfter⟩ := hnew.nativeSchema
    have htold : session.fileSchema.1 = (start site request).fileSchema.1 := by
      rw [fileSchema_of_unknown hcolumns (hafter.request_eq.trans h.request_eq.symm),
        fileSchema_of_unknown rfl hnewAfter.request_eq, hnative, pathFact, uri, h.request_eq]
      rfl
    refine ⟨htold, ?_⟩
    rw [Session.fileSchema, hcolumns] at htold ⊢
    cases hanswer : session.nativeSchema with
    | mk outcome between =>
      rw [hanswer] at hafter htold
      cases outcome with
      | error fault => exact hafter
      | ok native =>
        simp only [Answer.andThen] at htold ⊢
        split at htold
        case h_1 => exact hafter
        case h_2 columns hinferred =>
          refine ⟨hafter.request_eq, hafter.agrees, hafter.native_told, fun known same => ?_,
            hafter.partitions_told⟩
          cases same
          exact htold.symm

/-- Partitions that are not known are found from the request, and kept if they are found. -/
theorem resolvePartitions_of_unknown (hp : session.partitions = none) :
    ∃ agreed, session.site.Agrees agreed ∧
      session.resolvePartitions = (session.request.foundPartitions, ⟨session.request, agreed,
        session.native, session.columns, session.request.foundPartitions.toOption⟩) := by
  rw [resolvePartitions, ReadRequest.foundPartitions, hp]
  cases session.request.partitions with
  | some given => exact ⟨session.site, .refl _, rfl⟩
  | none =>
    simp only [uri]
    split
    · cases Partition.ofPath session.request.handle.uri session.request.options.definitions with
      | mk notices found =>
        refine ⟨session.site.note notices, ⟨rfl, rfl, rfl⟩, ?_⟩
        cases found with
        | error fault => simp [withSite, hp, Except.map, Except.toOption]
        | ok values => rfl
    · exact ⟨session.site, .refl _, rfl⟩

/-- The partitions are told as a new session is told. -/
theorem Follows.resolvePartitions (h : session.Follows site request) :
    session.resolvePartitions.1 = (start site request).resolvePartitions.1 ∧
      session.resolvePartitions.2.Follows site request := by
  cases hpartitions : session.partitions with
  | some partitions =>
    rw [resolvePartitions_of_known hpartitions]
    exact ⟨(h.partitions_told partitions hpartitions).symm, h⟩
  | none =>
    have hunknown : (start site request).partitions = none := rfl
    obtain ⟨agreed, ha, hanswer⟩ := resolvePartitions_of_unknown hpartitions
    obtain ⟨_, _, hnew⟩ := resolvePartitions_of_unknown hunknown
    have hfound : (start site request).resolvePartitions.1 = request.foundPartitions := by
      rw [hnew]
      rfl
    rw [hanswer, hfound, h.request_eq]
    refine ⟨rfl, rfl, h.agrees.trans ha, h.native_told, h.columns_told, fun partitions known => ?_⟩
    rw [hfound]
    cases hoption : request.foundPartitions with
    | error fault =>
      rw [hoption] at known
      cases known
    | ok found =>
      rw [hoption] at known
      cases known
      rfl

end Session

/-- Two answers are the same, and leave sessions that follow the same new one. -/
structure Answer.Same {α : Type} (site : Site) (request : ReadRequest) (answer answer' : Answer α) :
    Prop where
  /-- The answers are the same. -/
  outcome_eq : answer.1 = answer'.1
  /-- The first session follows a new one. -/
  left : answer.2.Follows site request
  /-- The second session follows the new one too. -/
  right : answer'.2.Follows site request

namespace Answer.Same

variable {α β : Type} {site : Site} {request : ReadRequest} {session session' : Session}

/-- Sessions that are both told what a new one is told are told the same. -/
theorem of_told {ask : Session → Answer α} {outcome : Outcome α}
    (told : ∀ session : Session, session.Follows site request →
      (ask session).1 = outcome ∧ (ask session).2.Follows site request)
    (h : session.Follows site request) (h' : session'.Follows site request) :
    Same site request (ask session) (ask session') :=
  ⟨(told session h).1.trans (told session' h').1.symm, (told session h).2, (told session' h').2⟩

/-- Questions that are asked after the same answers lead to the same answers. -/
theorem andThen {answer answer' : Answer α} {next : α → Session → Answer β}
    (h : Same site request answer answer')
    (hn : ∀ (value : α) {session session' : Session}, session.Follows site request →
      session'.Follows site request →
        Same site request (next value session) (next value session')) :
    Same site request (answer.andThen next) (answer'.andThen next) := by
  obtain ⟨outcome, between⟩ := answer
  obtain ⟨outcome', between'⟩ := answer'
  obtain ⟨houtcome, hleft, hright⟩ := h
  obtain rfl : outcome = outcome' := houtcome
  cases outcome with
  | error fault => exact ⟨rfl, hleft, hright⟩
  | ok value => exact hn value hleft hright

end Answer.Same

namespace Session.Follows

variable {session session' : Session} {site : Site} {request : ReadRequest}

/-- Sessions that follow the same new one are told the same schema of rows. -/
theorem same_schema (h : session.Follows site request) (h' : session'.Follows site request) :
    Answer.Same site request session.schema session'.schema :=
  (Answer.Same.of_told (fun _ => resolvePartitions) h h').andThen fun _ _ _ hp hp' =>
    (Answer.Same.of_told (fun _ => fileSchema) hp hp').andThen fun _ _ _ hc hc' => ⟨rfl, hc, hc'⟩

/-- Sessions that follow the same new one are given the same stream of rows. -/
theorem same_rows (h : session.Follows site request) (h' : session'.Follows site request)
    (tableId : Option String) :
    Answer.Same site request (session.rows tableId) (session'.rows tableId) := by
  rw [rows, rows, h.detect_eq, h'.detect_eq]
  cases (start site request).detect with
  | error fault => exact ⟨rfl, h, h'⟩
  | ok recognized =>
    cases recognized with
    | false => exact ⟨by rw [pathFact, pathFact, uri, uri, h.request_eq, h'.request_eq], h, h'⟩
    | true =>
      refine (Answer.Same.of_told (fun _ => fileSchema) h h').andThen fun columns _ _ hc hc' => ?_
      refine (hc.same_schema hc').andThen fun _ _ _ hs hs' => ?_
      refine (Answer.Same.of_told (fun _ => resolvePartitions) hs hs').andThen
        fun partitions _ _ hp hp' => ?_
      refine (Answer.Same.of_told (fun _ => nativeSchema) hp hp').andThen
        fun native _ _ hn hn' => ⟨?_, hn, hn'⟩
      simp only [uri, hn.request_eq, hn'.request_eq]

/-- A session that has handed all rows to a sink goes on following. -/
theorem readInto (h : session.Follows site request) {State : Type} (tableId : Option String)
    (sink : State → Value → Outcome State) (state : State) :
    (session.readInto tableId sink state).2.2.Follows site request := by
  have hrows := (h.same_rows h tableId).left
  rw [Session.readInto]
  cases hanswer : session.rows tableId with
  | mk outcome between =>
    rw [hanswer] at hrows
    cases outcome with
    | error fault => exact hrows
    | ok stream =>
      have hpour := stream.agrees_pour sink (stream.rowBound between.site + 1) state 0 between.site
      exact hrows.withSite (hpour.trans (Stream.agrees_close _ _))

end Session.Follows

end OrcRows
