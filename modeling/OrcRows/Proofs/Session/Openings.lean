import OrcRows.Proofs.Session.Leases

/-!
# Readers that questions make

A question about a file makes a reader only to find the declared type, at most one, and only while
the type is not known. If the type is still unknown after it was asked for, then a reader was made
in vain, unless there is none to make. Nothing stays held, and a read that gets a stream makes one
reader more.
-/

namespace OrcRows.Session

/-- Whether the registry has a reader for the session. -/
def hasReader (session : Session) : Bool :=
  (session.site.registry.pick session.request.readerName).isOk

/-- Whether there is a reader and the declared type is not known. -/
def lacksType (session : Session) : Bool := session.native.isNone && session.hasReader

/-- Whether the file is in the format, as far as can be told. -/
def isRecognized (session : Session) : Bool :=
  match session.detect with
  | .ok recognized => recognized
  | .error _ => false

/-- What is known was found in order: the declared type by a reader, the schema from the declared
type. -/
structure IsCoherent (session : Session) : Prop where
  /-- The declared type of a schema is known. -/
  native_known : session.columns.isSome = true → session.native.isSome = true
  /-- A declared type was found by a reader. -/
  reader_known : session.native.isSome = true → session.hasReader = true

/-- A session becomes another one, having opened readers for the declared type in vain a number of
times. -/
structure Reaches (session session' : Session) (failed : Nat) : Prop where
  /-- Readers were made in vain, or for the declared type that is known since. -/
  leads : ∃ built, session.site.Leads session'.site built 0 0 ∧
    session.native.isSome.toNat + built = failed + session'.native.isSome.toNat
  /-- The same is asked. -/
  request_eq : session'.request = session.request
  /-- What is known was found in order. -/
  coherent : session'.IsCoherent
  /-- The declared type is not forgotten. -/
  native_kept : session.native.isSome = true → session'.native.isSome = true

variable {session session' : Session}

/-- A known declared type does not lack. -/
theorem lacksType_of_known (h : session.native.isSome = true) : session.lacksType = false := by
  cases hnative : session.native with
  | none =>
    rw [hnative] at h
    cases h
  | some native => rw [lacksType, hnative, Option.isNone_some, Bool.false_and]

namespace Reaches

/-- Nothing is asked. -/
theorem refl (coherent : session.IsCoherent) : session.Reaches session 0 :=
  ⟨⟨0, .refl _ 0, by omega⟩, rfl, coherent, id⟩

/-- One question is asked after another. -/
theorem trans {between : Session} {failed failed' : Nat} (h : session.Reaches between failed)
    (h' : between.Reaches session' failed') : session.Reaches session' (failed + failed') := by
  obtain ⟨built, hleads, hcount⟩ := h.leads
  obtain ⟨built', hleads', hcount'⟩ := h'.leads
  refine ⟨⟨built + built', hleads.trans hleads', by omega⟩, h'.request_eq.trans h.request_eq,
    h'.coherent, fun known => h'.native_kept (h.native_kept known)⟩

/-- After an answer the next question is asked. -/
theorem andThen {α β : Type} {answer : Answer α} {next : α → Session → Answer β} {failed : Nat}
    (h : session.Reaches answer.2 failed)
    (hn : ∀ value, answer.1 = .ok value → answer.2.Reaches (next value answer.2).2 0) :
    session.Reaches (answer.andThen next).2 failed := by
  obtain ⟨outcome, between⟩ := answer
  cases outcome with
  | error fault => exact h
  | ok value => exact h.trans (hn value rfl)

/-- What follows a known declared type makes no reader in vain. -/
theorem thenKnown {between : Session} (h : session.Reaches between between.lacksType.toNat)
    (known : between.native.isSome = true) (h' : between.Reaches session' 0) :
    session.Reaches session' session'.lacksType.toNat := by
  have hwhole := h.trans h'
  rw [lacksType_of_known known] at hwhole
  rw [lacksType_of_known (h'.native_kept known)]
  exact hwhole

/-- No reader is made in vain once the declared type is known. -/
theorem quiet {asks : Bool} (h : session.Reaches session' (asks && session'.lacksType).toNat)
    (known : session.native.isSome = true) : session.Reaches session' 0 := by
  rw [lacksType_of_known (h.native_kept known), Bool.and_false] at h
  exact h

end Reaches

/-- A probe makes one reader and leaves nothing held. -/
theorem leads_probe (session : Session) (kind : ReaderKind) :
    session.site.Leads (session.probe kind).2 1 0 0 := by
  have hmake := Reader.leads_make kind session.request.handle session.site
  rw [probe]
  cases hmade : Reader.make kind session.request.handle session.site with
  | mk reader between =>
    rw [hmade] at hmake
    simp only
    cases hacquire : reader.acquire between with
    | mk opened site =>
      have hopen := Reader.leads_acquire hmade hacquire
      cases opened with
      | error fault => exact (hmake.trans hopen).trans (reader.leads_release site)
      | ok opened =>
        obtain ⟨reader', native⟩ := opened
        obtain ⟨hopen, hholds⟩ := hopen
        have hrelease := reader'.leads_release site
        rw [Reader.held_of_isSome hholds] at hrelease
        exact (hmake.trans hopen).trans hrelease

/-- Asking for the declared type opens a reader in vain if there is one and the type stays
unknown. -/
theorem reaches_nativeSchema (coherent : session.IsCoherent) :
    session.Reaches session.nativeSchema.2 session.nativeSchema.2.lacksType.toNat := by
  rw [nativeSchema]
  cases hnative : session.native with
  | some native =>
    rw [lacksType_of_known (by rw [hnative]; rfl)]
    exact .refl coherent
  | none =>
    simp only
    cases hpick : session.site.registry.pick session.request.readerName with
    | error fault =>
      have hlacks : session.lacksType = false := by
        rw [lacksType, hasReader, hpick]
        exact Bool.and_false _
      rw [hlacks]
      exact .refl coherent
    | ok name =>
      have hleads := session.leads_probe (Registry.kindOf name)
      simp only
      cases hprobe : session.probe (Registry.kindOf name) with
      | mk outcome site =>
        rw [hprobe] at hleads
        have hreader : (session.withSite site).hasReader = true := by
          rw [hasReader, withSite, hleads.registry_eq, hpick]
          rfl
        cases outcome with
        | error fault =>
          have hlacks : (session.withSite site).lacksType = true := by
            rw [lacksType, hreader, withSite, hnative]
            rfl
          simp only
          rw [hlacks]
          refine ⟨⟨1, hleads, ?_⟩, rfl, ⟨coherent.native_known, fun _ => hreader⟩, id⟩
          rw [withSite, hnative]
          rfl
        | ok native =>
          refine ⟨⟨1, hleads, ?_⟩, rfl, ⟨fun _ => rfl, fun _ => hreader⟩, fun _ => rfl⟩
          rw [hnative]
          rfl

/-- Asking for the schema of the columns opens a reader in vain only for the declared type. -/
theorem reaches_fileSchema (coherent : session.IsCoherent) :
    session.Reaches session.fileSchema.2 session.fileSchema.2.lacksType.toNat := by
  rw [fileSchema]
  cases hcolumns : session.columns with
  | some columns =>
    have hknown := coherent.native_known (by rw [hcolumns]; rfl)
    simp only
    rw [lacksType_of_known hknown]
    exact .refl coherent
  | none =>
    have hreaches := reaches_nativeSchema coherent
    cases hnative : session.nativeSchema with
    | mk outcome between =>
      rw [hnative] at hreaches
      cases outcome with
      | error fault => exact hreaches
      | ok native =>
        obtain ⟨hknown, _⟩ := nativeSchema_eq_ok hnative
        simp only [Answer.andThen]
        split
        · exact hreaches
        · have hsome : between.native.isSome = true := by
            rw [hknown]
            rfl
          exact hreaches.thenKnown hsome ⟨⟨0, .refl _ 0, Nat.add_comm _ _⟩, rfl,
            ⟨fun _ => hsome, hreaches.coherent.reader_known⟩, id⟩

/-- Resolving partitions makes no reader. -/
theorem reaches_resolvePartitions (coherent : session.IsCoherent) :
    session.Reaches session.resolvePartitions.2 0 := by
  have hsame : ∀ (notices : List Notice) (partitions : Option (List String × PartitionMap)),
      session.Reaches ⟨session.request, session.site.note notices, session.native, session.columns,
        partitions⟩ 0 := fun notices partitions =>
    ⟨⟨0, .note _ notices 0, Nat.add_comm _ _⟩, rfl,
      ⟨coherent.native_known, coherent.reader_known⟩, id⟩
  have hquiet : session.site.note [] = session.site := by
    rw [Site.note, List.append_nil]
  rw [resolvePartitions]
  split
  · exact .refl coherent
  · have hgiven := hsame []
    rw [hquiet] at hgiven
    exact hgiven _
  · simp only
    split
    · split
      · exact hsame _ _
      · exact hsame _ _
    · have hnothing := hsame []
      rw [hquiet] at hnothing
      exact hnothing _

/-- Asking for the schema of rows opens a reader in vain only if the partitions are resolved. -/
theorem reaches_schema (coherent : session.IsCoherent) :
    session.Reaches session.schema.2
      (session.resolvePartitions.1.isOk && session.schema.2.lacksType).toNat := by
  have hresolve := reaches_resolvePartitions coherent
  rw [schema]
  cases hpartitions : session.resolvePartitions with
  | mk outcome between =>
    rw [hpartitions] at hresolve
    cases outcome with
    | error fault => exact hresolve
    | ok partitions =>
      have hfile := reaches_fileSchema hresolve.coherent
      simp only [Answer.andThen]
      cases hcolumns : between.fileSchema with
      | mk outcome last =>
        rw [hcolumns] at hfile
        have hwhole := hresolve.trans hfile
        rw [Nat.zero_add] at hwhole
        cases outcome <;> exact hwhole

/-- Asking for rows opens a reader in vain only for the declared type of a file in the format. -/
theorem reaches_rows (coherent : session.IsCoherent) (tableId : Option String) :
    session.Reaches (session.rows tableId).2
      (session.isRecognized && (session.rows tableId).2.lacksType).toNat := by
  rw [rows, isRecognized]
  cases session.detect with
  | error fault => exact .refl coherent
  | ok recognized =>
    cases recognized with
    | false => exact .refl coherent
    | true =>
      have hfile := reaches_fileSchema coherent
      simp only [Bool.true_and]
      cases hcolumns : session.fileSchema with
      | mk outcome first =>
        rw [hcolumns] at hfile
        cases outcome with
        | error fault => exact hfile
        | ok columns =>
          have hknown : first.native.isSome = true := by
            apply hfile.coherent.native_known
            rw [(fileSchema_eq_ok hcolumns).1]
            rfl
          rw [Answer.ok_andThen]
          have hschema := (reaches_schema hfile.coherent).quiet hknown
          refine hfile.thenKnown hknown (hschema.andThen fun schema _ => ?_)
          have hpartitions := reaches_resolvePartitions hschema.coherent
          refine hpartitions.andThen fun partitions _ => ?_
          have hlast := hpartitions.native_kept (hschema.native_kept hknown)
          have hnative := reaches_nativeSchema hpartitions.coherent
          rw [lacksType_of_known (hnative.native_kept hlast)] at hnative
          exact hnative.andThen fun native _ => .refl hnative.coherent

/-- Asking for rows of a file that is not recognized fails and changes nothing. -/
theorem rows_of_not_isRecognized (h : session.isRecognized = false) (tableId : Option String) :
    ∃ fault, session.rows tableId = (.error fault, session) := by
  rw [isRecognized] at h
  rw [rows]
  cases hdetect : session.detect with
  | error fault => exact ⟨fault, rfl⟩
  | ok recognized =>
    rw [hdetect] at h
    obtain rfl : recognized = false := h
    exact ⟨_, rfl⟩

/-- A reader that is there is picked. -/
theorem exists_pick (h : session.hasReader = true) :
    ∃ name, session.site.registry.pick session.request.readerName = .ok name := by
  rw [hasReader] at h
  cases hpick : session.site.registry.pick session.request.readerName with
  | error fault =>
    rw [hpick] at h
    cases h
  | ok name => exact ⟨name, rfl⟩

/-- A stream of rows was asked for nothing yet, and there is a reader for it. -/
theorem stream_of_rows (coherent : session.IsCoherent) {tableId : Option String} {stream : Stream}
    (h : session.rows tableId = (.ok stream, session')) :
    stream.progress = .fresh ∧ stream.readerName = session'.request.readerName ∧
      ∃ name, session'.site.registry.pick stream.readerName = .ok name := by
  have hreaches := reaches_rows coherent tableId
  rw [h] at hreaches
  obtain ⟨_, _, columns, partitions, native, planned, resolves⟩ := rows_eq_ok h
  have hknown : session'.native.isSome = true := by
    rw [resolves.native_known]
    rfl
  rw [resolves.stream_eq]
  exact ⟨rfl, rfl, exists_pick (hreaches.coherent.reader_known hknown)⟩

/-- A read makes one reader more than asking for rows if it gets a stream, and lets go of what the
reader holds, however the read ends. -/
theorem readInto_eq_withSite (coherent : session.IsCoherent) {State : Type}
    (tableId : Option String) (sink : State → Value → Outcome State) (start : State) :
    ∃ site, (session.readInto tableId sink start).2.2 = (session.rows tableId).2.withSite site ∧
      (session.rows tableId).2.site.Leads site (session.rows tableId).1.isOk.toNat 0 0 := by
  rw [readInto]
  cases hrows : session.rows tableId with
  | mk outcome between =>
    cases outcome with
    | error fault => exact ⟨between.site, rfl, .refl between.site 0⟩
    | ok stream =>
      obtain ⟨hfresh, _, name, hpick⟩ := stream_of_rows coherent hrows
      have sound : stream.IsSound := by
        rw [Stream.IsSound, hfresh]
        trivial
      have hpour := Stream.leads_pour sink (stream.rowBound between.site) start 0 sound hpick
      rw [Stream.pending, Stream.held, hfresh] at hpour
      obtain ⟨hclose, _⟩ := Stream.leads_close
        (stream.pour sink (stream.rowBound between.site + 1) start 0 between.site).stream
        (stream.pour sink (stream.rowBound between.site + 1) start 0 between.site).site
      exact ⟨_, rfl, hpour.trans hclose⟩

end OrcRows.Session
