import OrcRows.Proofs.Session.Openings

/-!
# Uses of a session

A session and the streams it gave are used step by step, in any order: questions are asked, streams
are asked for rows and let go of, rows are handed to sinks, and the file changes. The history of a
stream is kept beside it. At any time as many resources are held as there are streams whose history
is rows alone, and the number of readers made follows from the histories and from what is known.
-/

namespace OrcRows

/-- How a stream is let go of. -/
inductive Ending where
  /-- The stream is closed. -/
  | close
  /-- The block that uses the stream is left. -/
  | leave
  /-- The stream is forgotten. -/
  | drop

/-- What happens to a stream. -/
inductive StreamEvent where
  /-- The stream is asked for a row, and gives an outcome. -/
  | asked (outcome : Outcome (Option Value))
  /-- The stream is let go of. -/
  | finished (ending : Ending)

/-- What has happened to a stream, in order. -/
abbrev StreamHistory := List StreamEvent

/-- Whether a stream gives a row. -/
def StreamEvent.isRow : StreamEvent → Bool
  | .asked (.ok (some _)) => true
  | _ => false

namespace StreamHistory

/-- Whether a stream was asked for a row before it was let go of. -/
def isAdvanced : StreamHistory → Bool
  | .asked _ :: _ => true
  | _ => false

/-- Whether a stream was asked for a row and neither came to an end or a fault nor was let go of. -/
def isLive (history : StreamHistory) : Bool :=
  !history.isEmpty && history.all StreamEvent.isRow

/-- A history with one more event is live if that is a row and the history was live or empty. -/
theorem isLive_append (history : StreamHistory) (event : StreamEvent) :
    isLive (history ++ [event]) = ((history.isEmpty || isLive history) && event.isRow) := by
  cases history with
  | nil => rw [isLive, List.nil_append]; simp
  | cons first rest => simp [isLive, Bool.and_assoc]

/-- A stream that was not asked for a row first is not live. -/
theorem isLive_eq_false {history : StreamHistory} (h : isAdvanced history = false) :
    isLive history = false := by
  cases history with
  | nil => rfl
  | cons first rest =>
    cases first with
    | asked outcome => cases h
    | finished ending => rfl

/-- Only the first event of a history tells whether the stream was asked. -/
theorem isAdvanced_append {history : StreamHistory} (h : history ≠ []) (later : StreamHistory) :
    isAdvanced (history ++ later) = isAdvanced history := by
  cases history with
  | nil => exact absurd rfl h
  | cons first rest => cases first <;> rfl

end StreamHistory

/-- A stream and its history. -/
structure Tracked where
  /-- The stream. -/
  stream : Stream
  /-- What has happened to it. -/
  history : StreamHistory

/-- What happens to a stream whose rows are handed to a sink, a number of times at most. -/
def Stream.pourHistory {State : Type} (sink : State → Value → Outcome State) :
    Nat → State → Stream → Site → StreamHistory
  | 0, _, _, _ => []
  | limit + 1, state, stream, site =>
    let step := stream.next site
    .asked step.outcome :: match step.outcome with
      | .ok (some row) =>
        match sink state row with
        | .ok state => pourHistory sink limit state step.stream step.site
        | .error _ => []
      | _ => []

/-- A session in use. -/
structure Usage where
  /-- The session. -/
  session : Session
  /-- The streams that the session gave, those of reads included, in order. -/
  streams : List Tracked
  /-- How many times the declared type was asked for, and a reader there, without success. -/
  failedOpens : Nat

/-- A use of a session, or a change of the file. -/
inductive Operation where
  /-- Asks whether the file is in the format. -/
  | detect
  /-- Asks for the declared type. -/
  | nativeSchema
  /-- Asks for the schema of the columns. -/
  | fileSchema
  /-- Asks for the schema of rows. -/
  | schema
  /-- Asks for a stream. -/
  | rows (tableId : Option String)
  /-- Asks a stream for a row. -/
  | next (place : Nat)
  /-- Lets go of a stream. -/
  | finish (place : Nat) (ending : Ending)
  /-- Hands all rows to a sink. -/
  | read {State : Type} (tableId : Option String) (sink : State → Value → Outcome State)
      (start : State)
  /-- The files, and what readers find in them, become others. -/
  | change (storage : Storage) (source : Source)

namespace Usage

/-- The use of a session that was not used yet. -/
def start (session : Session) : Usage := ⟨session, [], 0⟩

/-- The session goes on; if the declared type was asked for and there is a reader, but the type is
not known, then opening the reader has failed. -/
def answered (usage : Usage) (asks : Bool) (session : Session) : Usage :=
  ⟨session, usage.streams, usage.failedOpens + (asks && session.lacksType).toNat⟩

/-- A stream, at its place, and the site are as they are after an event. -/
def happened (usage : Usage) (place : Nat) (tracked : Tracked) (stream : Stream) (site : Site)
    (event : StreamEvent) : Usage :=
  ⟨usage.session.withSite site, usage.streams.set place ⟨stream, tracked.history ++ [event]⟩,
    usage.failedOpens⟩

/-- One more stream is there. -/
def joined (usage : Usage) (tracked : Tracked) : Usage :=
  ⟨usage.session, usage.streams ++ [tracked], usage.failedOpens⟩

/-- One use of a session. -/
def step (usage : Usage) : Operation → Usage
  | .detect => usage
  | .nativeSchema => usage.answered true usage.session.nativeSchema.2
  | .fileSchema => usage.answered true usage.session.fileSchema.2
  | .schema => usage.answered usage.session.resolvePartitions.1.isOk usage.session.schema.2
  | .rows tableId =>
    let (outcome, session) := usage.session.rows tableId
    let after := usage.answered usage.session.isRecognized session
    match outcome with
    | .error _ => after
    | .ok stream => after.joined ⟨stream, []⟩
  | .next place =>
    match usage.streams[place]? with
    | none => usage
    | some tracked =>
      let step := tracked.stream.next usage.session.site
      usage.happened place tracked step.stream step.site (.asked step.outcome)
  | .finish place ending =>
    match usage.streams[place]? with
    | none => usage
    | some tracked =>
      let (stream, site) := tracked.stream.close usage.session.site
      usage.happened place tracked stream site (.finished ending)
  | .read tableId sink start =>
    let (outcome, session) := usage.session.rows tableId
    let after := usage.answered usage.session.isRecognized
      (usage.session.readInto tableId sink start).2.2
    match outcome with
    | .error _ => after
    | .ok stream =>
      after.joined ⟨stream.withProgress .ended,
        stream.pourHistory sink (stream.rowBound session.site + 1) start session.site ++
          [.finished .leave]⟩
  | .change storage source =>
    let site := usage.session.site
    ⟨usage.session.withSite ⟨storage, source, site.registry, site.ledger, site.notices⟩,
      usage.streams, usage.failedOpens⟩

/-- Many uses of a session, one after the other. -/
def run (usage : Usage) (operations : List Operation) : Usage := operations.foldl step usage

/-- The number of streams that were asked for a row before they were let go of. -/
def advanced (usage : Usage) : Nat := usage.streams.countP fun tracked => tracked.history.isAdvanced

/-- The number of streams that were asked for a row and are not over. -/
def live (usage : Usage) : Nat := usage.streams.countP fun tracked => tracked.history.isLive

end Usage

end OrcRows
