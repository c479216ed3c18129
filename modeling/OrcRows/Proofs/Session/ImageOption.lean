import OrcRows.Proofs.Cell.Images
import OrcRows.Proofs.Session.Typing

/-!
# Reads that keep images and reads that do not

The option to keep images reaches the cells through the policy of a plan and is asked for nowhere
else. Cells of a read are decoded under the types that mapping has given, where the policy makes no
difference, so neither do whole reads: rows, their number and the fault at the end are the same.
-/

namespace OrcRows

/-- The options with images kept or not. -/
def ReaderOptions.withImages (options : ReaderOptions) (keeps : Bool) : ReaderOptions :=
  { options with keepsImages := keeps }

/-- The request with images kept or not. -/
def ReadRequest.withImages (request : ReadRequest) (keeps : Bool) : ReadRequest :=
  { request with options := request.options.withImages keeps }

/-- The session with images kept or not. -/
def Session.withImages (session : Session) (keeps : Bool) : Session :=
  { session with request := session.request.withImages keeps }

/-- The plan with images kept or not. -/
def ReadPlan.withImages (plan : ReadPlan) (keeps : Bool) : ReadPlan :=
  { plan with policy := plan.policy.withImages keeps }

/-- The stream with images kept or not. -/
def Stream.withImages (stream : Stream) (keeps : Bool) : Stream :=
  { stream with plan := stream.plan.withImages keeps }

namespace Answer

variable {α β : Type}

/-- The same answer, in the session with images kept or not. -/
def withImages (answer : Answer α) (keeps : Bool) : Answer α :=
  (answer.1, answer.2.withImages keeps)

/-- The stream of an answer and its session with images kept or not. -/
def streamWithImages (answer : Answer Stream) (keeps : Bool) : Answer Stream :=
  (answer.1.map (·.withImages keeps), answer.2.withImages keeps)

/-- What goes on after the same answer leads to the same change of the answers, if faults are left
as they are. -/
theorem andThen_withImages {answer : Answer α} {next : α → Session → Answer β} {keeps : Bool}
    (change : Answer β → Answer β)
    (hf : ∀ fault session,
      change (.error fault, session) = (.error fault, session.withImages keeps))
    (h : ∀ value session, next value (session.withImages keeps) = change (next value session)) :
    (answer.withImages keeps).andThen next = change (answer.andThen next) := by
  obtain ⟨outcome, session⟩ := answer
  cases outcome with
  | ok value => exact h value session
  | error fault => exact (hf fault session).symm

end Answer

namespace Session

variable (session : Session) (keeps : Bool)

/-- The declared type does not depend on keeping images. -/
theorem nativeSchema_withImages :
    (session.withImages keeps).nativeSchema = session.nativeSchema.withImages keeps := by
  have hprobe : ∀ kind, (session.withImages keeps).probe kind = session.probe kind := fun _ => rfl
  have hknown : (session.withImages keeps).native = session.native := rfl
  have hpick : (session.withImages keeps).site.registry.pick
      (session.withImages keeps).request.readerName =
      session.site.registry.pick session.request.readerName := rfl
  rw [nativeSchema, nativeSchema, hknown, hpick]
  cases session.native with
  | some native => rfl
  | none =>
    cases session.site.registry.pick session.request.readerName with
    | error fault => rfl
    | ok name =>
      simp only [hprobe]
      cases session.probe (Registry.kindOf name) with
      | mk outcome site => cases outcome <;> rfl

/-- The schema of the columns does not depend on keeping images. -/
theorem fileSchema_withImages :
    (session.withImages keeps).fileSchema = session.fileSchema.withImages keeps := by
  have hknown : (session.withImages keeps).columns = session.columns := rfl
  rw [fileSchema, fileSchema, hknown, nativeSchema_withImages]
  cases session.columns with
  | some columns => rfl
  | none =>
    refine Answer.andThen_withImages (·.withImages keeps) (fun _ _ => rfl) fun native between => ?_
    have hinferred : native.inferSchema (between.withImages keeps).request.target
        (between.withImages keeps).request.options.selected =
        native.inferSchema between.request.target between.request.options.selected := rfl
    have hpath : (between.withImages keeps).pathFact = between.pathFact := rfl
    simp only [hinferred, hpath]
    cases Outcome.addContext between.pathFact
        (native.inferSchema between.request.target between.request.options.selected) with
    | error fault => rfl
    | ok columns => rfl

/-- The partitions do not depend on keeping images. -/
theorem resolvePartitions_withImages :
    (session.withImages keeps).resolvePartitions = session.resolvePartitions.withImages keeps := by
  have hfound : (session.withImages keeps).partitions = session.partitions := rfl
  have hgiven : (session.withImages keeps).request.partitions = session.request.partitions := rfl
  have hmerges : (session.withImages keeps).request.options.mergesPartitions =
    session.request.options.mergesPartitions := rfl
  have hpath : Partition.ofPath (session.withImages keeps).uri
      (session.withImages keeps).request.options.definitions =
      Partition.ofPath session.uri session.request.options.definitions := rfl
  rw [resolvePartitions, resolvePartitions, hfound, hgiven]
  cases session.partitions with
  | some partitions => rfl
  | none =>
    cases session.request.partitions with
    | some given => rfl
    | none =>
      simp only [hmerges, hpath]
      split
      · cases Partition.ofPath session.uri session.request.options.definitions with
        | mk notices outcome => cases outcome <;> rfl
      · rfl

/-- The schema of rows does not depend on keeping images. -/
theorem schema_withImages :
    (session.withImages keeps).schema = session.schema.withImages keeps := by
  rw [schema, schema, resolvePartitions_withImages]
  refine Answer.andThen_withImages (·.withImages keeps) (fun _ _ => rfl)
    fun partitions between => ?_
  rw [fileSchema_withImages]
  exact Answer.andThen_withImages (·.withImages keeps) (fun _ _ => rfl) fun columns last => rfl

/-- A stream of rows differs in its policy alone. -/
theorem rows_withImages (tableId : Option String) :
    (session.withImages keeps).rows tableId = (session.rows tableId).streamWithImages keeps := by
  have hdetect : (session.withImages keeps).detect = session.detect := rfl
  have hpath : (session.withImages keeps).pathFact = session.pathFact := rfl
  rw [rows, rows, hdetect, hpath]
  cases session.detect with
  | error fault => rfl
  | ok recognized =>
    cases recognized with
    | false => rfl
    | true =>
      let change : Answer Stream → Answer Stream := (·.streamWithImages keeps)
      simp only [fileSchema_withImages]
      refine Answer.andThen_withImages change (fun _ _ => rfl) fun columns first => ?_
      rw [schema_withImages]
      refine Answer.andThen_withImages change (fun _ _ => rfl) fun schema second => ?_
      rw [resolvePartitions_withImages]
      refine Answer.andThen_withImages change (fun _ _ => rfl) fun partitions third => ?_
      rw [nativeSchema_withImages]
      refine Answer.andThen_withImages change (fun _ _ => rfl) fun native last => ?_
      cases planColumns native columns with
      | error fault => rfl
      | ok planned => rfl

end Session

section Streams

variable {plan : ReadPlan} {stream : Stream} {site : Site}

/-- A row of a batch that fits a plan does not depend on keeping images. -/
theorem ReadPlan.IsMapped.row_withImages (mapped : plan.IsMapped) (keeps : Bool) {batch : Batch}
    (fits : ∀ column vector, (column, some vector) ∈ plan.columns.zip batch.columns →
      vector.Matches LeafCells.IsKindOf column.declared) (index emitted : Nat) :
    (plan.withImages keeps).row batch index emitted = plan.row batch index emitted := by
  have hcells : (plan.withImages keeps).cells batch index emitted =
      plan.cells batch index emitted := by
    apply Outcome.mapM_congr
    rintro ⟨column, vector⟩ hpair
    cases vector with
    | none => rfl
    | some vector =>
      obtain ⟨asked, hu⟩ := mapped column (List.of_mem_zip hpair).1
      have hcell : vector.cell (plan.policy.withImages keeps) column.declared (some column.type)
          index = vector.cell plan.policy column.declared (some column.type) index :=
        ColumnVector.Matches.cell_withImages vector (fits column vector hpair) hu keeps
      exact congrArg (Outcome.addContext _) hcell
  rw [ReadPlan.row, ReadPlan.row, hcells]
  rfl

/-- The items of what fits a plan resolve in the same way whether images are kept or not. -/
theorem ReadPlan.IsMapped.resolve_withImages (mapped : plan.IsMapped) (keeps : Bool) {feed : Feed}
    (fits : plan.Fits feed) {item : FeedItem} (hi : item ∈ feed.flatMap plan.itemsOf)
    (emitted : Nat) : (plan.withImages keeps).resolve emitted item = plan.resolve emitted item := by
  cases item with
  | fault fault => rfl
  | row batch index =>
    obtain ⟨served, hserved, hitem⟩ := List.mem_flatMap.mp hi
    have hbatch := (eq_of_row_mem_itemsOf hitem).1
    have hrow := mapped.row_withImages keeps (fits batch (hbatch ▸ hserved)) index emitted
    exact congrArg (Outcome.addContext plan.pathFact) hrow

/-- The items of a stream resolve in the same way whether images are kept or not. -/
theorem Stream.resolve_withImages (mapped : stream.plan.IsMapped) (fits : stream.FitsAt site)
    (keeps : Bool) {items : List FeedItem} (h : stream.items site = .ok items) {item : FeedItem}
    (hi : item ∈ items) (emitted : Nat) :
    (stream.plan.withImages keeps).resolve emitted item = stream.plan.resolve emitted item := by
  rw [Stream.items] at h
  cases hpick : site.registry.pick stream.readerName with
  | error fault =>
    rw [hpick] at h
    cases h
  | ok name =>
    rw [hpick] at h
    injection h with same
    rw [← same] at hi
    simp only at hi
    split at hi
    · rw [List.mem_singleton.mp hi]
      rfl
    · rename_i feed hserves
      exact mapped.resolve_withImages keeps (fits _ feed hserves) hi emitted

/-- What is left of a stream that was not begun does not depend on keeping images. -/
theorem Stream.expected_withImages (fresh : stream.progress = .fresh)
    (mapped : stream.plan.IsMapped) (fits : stream.FitsAt site) (keeps : Bool) :
    (stream.withImages keeps).expected site = stream.expected site := by
  have hfresh : (stream.withImages keeps).progress = .fresh := fresh
  have hitems : (stream.withImages keeps).items site = stream.items site := rfl
  rw [expected, expected, hfresh, fresh, hitems]
  simp only
  cases hlist : stream.items site with
  | error fault => rfl
  | ok items =>
    apply List.mapIdx_eq_mapIdx_iff.mpr
    intro place inside
    exact stream.resolve_withImages mapped fits keeps hlist (List.getElem_mem inside) place

end Streams

/-- A read gives the same whether images are kept or not, if what the reader serves matches the
types that the file declares: the same stream up to the policy, the same answer to every request of
it, and the same to every sink. -/
theorem read_withImages {site : Site} {request : ReadRequest} {tableId : Option String}
    (fits : ∀ stream session', (Session.start site request).rows tableId = (.ok stream, session') →
      stream.FitsAt session'.site) (keeps : Bool) :
    (∀ fault, ((Session.start site request).rows tableId).1 = .error fault →
      ((Session.start site (request.withImages keeps)).rows tableId).1 = .error fault) ∧
    (∀ stream session', (Session.start site request).rows tableId = (.ok stream, session') →
      (Session.start site (request.withImages keeps)).rows tableId =
        (.ok (stream.withImages keeps), session'.withImages keeps) ∧
      ∀ sites, (stream.withImages keeps).calls (session'.site :: sites) =
        stream.calls (session'.site :: sites)) ∧
    ∀ (State : Type) (sink : State → Value → Outcome State) (state : State),
      ((Session.start site (request.withImages keeps)).readInto tableId sink state).1 =
          ((Session.start site request).readInto tableId sink state).1 ∧
        ((Session.start site (request.withImages keeps)).readInto tableId sink state).2.1 =
          ((Session.start site request).readInto tableId sink state).2.1 := by
  have hrows : (Session.start site (request.withImages keeps)).rows tableId =
      ((Session.start site request).rows tableId).streamWithImages keeps :=
    (Session.start site request).rows_withImages keeps tableId
  cases started : (Session.start site request).rows tableId with
  | mk outcome session' =>
    rw [started] at hrows
    cases outcome with
    | error fault =>
      refine ⟨fun other same => ?_, fun stream other same => ?_, fun State sink state => ?_⟩
      · rw [hrows]
        exact same
      · cases same
      · rw [Session.readInto, Session.readInto, hrows, started]
        exact ⟨rfl, rfl⟩
    | ok stream =>
      have follows : (Session.start site request).Follows site request :=
        Session.follows_start (.refl site)
      have mapped : stream.plan.IsMapped := follows.rows_isMapped started
      have fresh : stream.progress = .fresh := by
        obtain ⟨_, _, _, _, _, _, resolves⟩ := Session.rows_eq_ok started
        rw [resolves.stream_eq]
      have same :
          (stream.withImages keeps).expected session'.site = stream.expected session'.site :=
        stream.expected_withImages fresh mapped (fits stream session' started) keeps
      refine ⟨fun fault known => ?_, fun other last known => ?_, fun State sink state => ?_⟩
      · cases known
      · cases known
        refine ⟨hrows, fun sites => ?_⟩
        rw [Stream.calls_eq_answers, Stream.calls_eq_answers, same]
      · have changed := Session.readInto_eq_consume hrows fresh sink state
        have plain := Session.readInto_eq_consume started fresh sink state
        have hsite : (session'.withImages keeps).site = session'.site := rfl
        rw [hsite, same, ← plain] at changed
        exact Prod.mk.inj changed

/-- A table with one column of text, in which a value begins like an image. -/
def photosTable : Table :=
  ⟨[("photo", .text false)], [.ok [.bytes [some [0x89, 0x50, 0x4e, 0x47], some [0x61]]]], none⟩

/-- The place of the table. -/
def photosSite : Site := .start ⟨"/", [("/photos", Sniff.magic)]⟩ (.table photosTable)

/-- A read of the table without any types asked for. -/
def photosRequest : ReadRequest :=
  ⟨⟨"/photos", "", "/photos", false, .none⟩, .standard, none, none, none⟩

/-- The table is full, and serves what fits every read of it. -/
theorem photos_fit (stream : Stream) (session' : Session)
    (started : (Session.start photosSite photosRequest).rows none = (.ok stream, session')) :
    stream.FitsAt session'.site := by
  have full : photosTable.IsFull := by
    constructor
    · decide
    · intro arrays stripe
      rw [photosTable, List.mem_singleton] at stripe
      injection stripe with same
      rw [same]
      rfl
  have follows : (Session.start photosSite photosRequest).Follows photosSite photosRequest :=
    Session.follows_start (.refl photosSite)
  exact follows.rows_fitsAt started rfl full

/-- The read of the table gives the same whether images are kept or not. -/
theorem read_withImages_photos :
    (∀ fault, ((Session.start photosSite photosRequest).rows none).1 = .error fault →
      ((Session.start photosSite (photosRequest.withImages true)).rows none).1 = .error fault) ∧
    (∀ stream session', (Session.start photosSite photosRequest).rows none =
        (.ok stream, session') →
      (Session.start photosSite (photosRequest.withImages true)).rows none =
        (.ok (stream.withImages true), session'.withImages true) ∧
      ∀ sites, (stream.withImages true).calls (session'.site :: sites) =
        stream.calls (session'.site :: sites)) ∧
    ∀ (State : Type) (sink : State → Value → Outcome State) (state : State),
      ((Session.start photosSite (photosRequest.withImages true)).readInto none sink state).1 =
          ((Session.start photosSite photosRequest).readInto none sink state).1 ∧
        ((Session.start photosSite (photosRequest.withImages true)).readInto none sink state).2.1 =
          ((Session.start photosSite photosRequest).readInto none sink state).2.1 :=
  read_withImages photos_fit true

/-- With images kept, and without any types asked for, a value of a text column that begins like an
image is read as text. -/
theorem photos_read_as_text :
    (photosRequest.withImages true).target = none ∧
      (photosRequest.withImages true).options.textPolicy.keepsImages = true ∧
      hasImageSignature [0x89, 0x50, 0x4e, 0x47] = true ∧
      ((Session.start photosSite (photosRequest.withImages true)).readAll none).1 =
        [.row [.text "\ufffdPNG"] none, .row [.text "a"] none] ∧
      ((Session.start photosSite (photosRequest.withImages true)).readAll none).1 ≠
        [.row [.bytes [0x89, 0x50, 0x4e, 0x47]] none, .row [.text "a"] none] := by
  have rows : ((Session.start photosSite (photosRequest.withImages true)).readAll none).1 =
    [.row [.text "\ufffdPNG"] none, .row [.text "a"] none] := by rfl
  refine ⟨rfl, rfl, rfl, rows, ?_⟩
  rw [rows]
  simp

end OrcRows
