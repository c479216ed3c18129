import OrcRows.Proofs.Session.Renewal
import OrcRows.Proofs.Session.Rows
import OrcRows.Proofs.Session.Usage

/-!
# Streams and questions side by side

Streams of one session are asked for rows in turns, and questions are asked in between. Whatever the
order, a stream gives what the same requests give if it is the only stream of a new session, and a
question is answered as a new session answers it, as long as the file does not change.
-/

namespace OrcRows

namespace Operation

/-- Whether an operation leaves the file as it is. -/
def keepsFile : Operation → Bool
  | .change .. => false
  | _ => true

/-- What an operation asks of the stream at a place, as it is asked of a stream that is alone. -/
def onto (place : Nat) : Operation → Option Operation
  | .next other => if other = place then some (.next 0) else none
  | .finish other ending => if other = place then some (.finish 0 ending) else none
  | _ => none

end Operation

namespace Usage

variable {usage alone : Usage} {site : Site} {request : ReadRequest} {place : Nat}

/-- Every use of a session but a change of the file keeps it following. -/
theorem follows_step (h : usage.session.Follows site request) {operation : Operation}
    (hk : operation.keepsFile = true) : (usage.step operation).session.Follows site request := by
  cases operation with
  | detect => exact h
  | nativeSchema => exact h.nativeSchema.2
  | fileSchema => exact h.fileSchema.2
  | schema => exact (h.same_schema h).left
  | rows tableId =>
    have hrows := (h.same_rows h tableId).left
    rw [step]
    cases hanswer : usage.session.rows tableId with
    | mk outcome session =>
      rw [hanswer] at hrows
      cases outcome <;> exact hrows
  | next place =>
    rw [step]
    cases usage.streams[place]? with
    | none => exact h
    | some tracked => exact h.withSite (tracked.stream.agrees_next usage.session.site)
  | finish place ending =>
    rw [step]
    cases usage.streams[place]? with
    | none => exact h
    | some tracked => exact h.withSite (tracked.stream.agrees_close usage.session.site)
  | read tableId sink start =>
    have hread := h.readInto tableId sink start
    rw [step]
    cases usage.session.rows tableId with
    | mk outcome session => cases outcome <;> exact hread
  | change storage source => cases hk

/-- Many uses of a session keep it following. -/
theorem follows_run (h : usage.session.Follows site request) {operations : List Operation}
    (hk : ∀ operation ∈ operations, operation.keepsFile = true) :
    (usage.run operations).session.Follows site request := by
  induction operations generalizing usage with
  | nil => exact h
  | cons operation rest ih =>
    obtain ⟨hfirst, hrest⟩ := List.forall_mem_cons.mp hk
    exact ih (follows_step h hfirst) hrest

/-- The stream at a place is as far as the only stream of another session, and has the same
history. -/
structure Mirrors (usage alone : Usage) (site : Site) (request : ReadRequest) (place : Nat) :
    Prop where
  /-- The session answers like a new one. -/
  follows : usage.session.Follows site request
  /-- The other session answers like the same new one. -/
  aloneFollows : alone.session.Follows site request
  /-- The stream at the place is the only stream of the other session. -/
  tracked : ∃ tracked, usage.streams[place]? = some tracked ∧ alone.streams = [tracked]

/-- What is not asked of a stream does not touch it. -/
theorem getElem?_step_of_onto_eq_none {operation : Operation} (hk : operation.keepsFile = true)
    (ho : operation.onto place = none) {tracked : Tracked}
    (ht : usage.streams[place]? = some tracked) :
    (usage.step operation).streams[place]? = some tracked := by
  have hjoined : ∀ other, (usage.streams ++ [other])[place]? = some tracked := by
    intro other
    rw [List.getElem?_append_left (List.getElem?_eq_some_iff.mp ht).1, ht]
  cases operation with
  | detect => exact ht
  | nativeSchema => exact ht
  | fileSchema => exact ht
  | schema => exact ht
  | rows tableId =>
    rw [step]
    cases usage.session.rows tableId with
    | mk outcome session =>
      cases outcome with
      | error fault => exact ht
      | ok stream => exact hjoined _
  | next other =>
    have hother : other ≠ place := by
      intro same
      rw [Operation.onto, if_pos same] at ho
      cases ho
    rw [step]
    cases usage.streams[other]? with
    | none => exact ht
    | some _ => exact (List.getElem?_set_ne hother).trans ht
  | finish other ending =>
    have hother : other ≠ place := by
      intro same
      rw [Operation.onto, if_pos same] at ho
      cases ho
    rw [step]
    cases usage.streams[other]? with
    | none => exact ht
    | some _ => exact (List.getElem?_set_ne hother).trans ht
  | read tableId sink start =>
    rw [step]
    cases usage.session.rows tableId with
    | mk outcome session =>
      cases outcome with
      | error fault => exact ht
      | ok stream => exact hjoined _
  | change storage source => cases hk

/-- What is asked of the stream is asked of the one that is alone, and they stay alike. -/
theorem Mirrors.step_onto (h : usage.Mirrors alone site request place) {operation asked : Operation}
    (ho : operation.onto place = some asked) :
    (usage.step operation).Mirrors (alone.step asked) site request place := by
  obtain ⟨hfollows, halone, tracked, htracked, honly⟩ := h
  have hplace := (List.getElem?_eq_some_iff.mp htracked).1
  have hfirst : alone.streams[0]? = some tracked := by rw [honly]; rfl
  have hset : ∀ changed, (usage.streams.set place changed)[place]? = some changed ∧
      alone.streams.set 0 changed = [changed] := by
    intro changed
    exact ⟨List.getElem?_set_self hplace, by rw [honly]; rfl⟩
  cases operation with
  | next other =>
    simp only [Operation.onto, Option.ite_none_right_eq_some, Option.some.injEq] at ho
    obtain ⟨rfl, rfl⟩ := ho
    refine ⟨follows_step hfollows rfl, follows_step halone rfl, ?_⟩
    obtain ⟨houtcome, hstream⟩ := Stream.sameStep_next
      (halone.agrees.symm.trans hfollows.agrees) tracked.stream
    simp only [step, htracked, hfirst, happened, houtcome, hstream]
    exact ⟨_, hset _⟩
  | finish other ending =>
    simp only [Operation.onto, Option.ite_none_right_eq_some, Option.some.injEq] at ho
    obtain ⟨rfl, rfl⟩ := ho
    refine ⟨follows_step hfollows rfl, follows_step halone rfl, ?_⟩
    simp only [step, htracked, hfirst, happened, Stream.close_fst]
    exact ⟨_, hset _⟩
  | _ => cases ho

/-- Many uses of a session leave a stream as far as what is asked of it leaves it alone. -/
theorem Mirrors.run (h : usage.Mirrors alone site request place) {operations : List Operation}
    (hk : ∀ operation ∈ operations, operation.keepsFile = true) :
    (usage.run operations).Mirrors (alone.run (operations.filterMap (·.onto place))) site request
      place := by
  induction operations generalizing usage alone with
  | nil => exact h
  | cons operation rest ih =>
    obtain ⟨hfirst, hrest⟩ := List.forall_mem_cons.mp hk
    cases ho : operation.onto place with
    | none =>
      rw [List.filterMap_cons_none ho]
      obtain ⟨tracked, htracked, honly⟩ := h.tracked
      exact ih ⟨follows_step h.follows hfirst, h.aloneFollows, tracked,
        getElem?_step_of_onto_eq_none hfirst ho htracked, honly⟩ hrest
    | some asked =>
      rw [List.filterMap_cons_some ho]
      exact ih (h.step_onto ho) hrest

/-- A stream that was just asked for is the last one, and nothing has happened to it. -/
theorem streams_step_rows {tableId : Option String} {stream : Stream}
    (h : (usage.session.rows tableId).1 = .ok stream) :
    (usage.step (.rows tableId)).streams = usage.streams ++ [⟨stream, []⟩] := by
  rw [step]
  cases hanswer : usage.session.rows tableId with
  | mk outcome session =>
    rw [hanswer] at h
    obtain rfl : outcome = .ok stream := h
    rfl

/-- At any time in the use of a session, questions about the file are answered as a new session
answers them, whatever was asked and read before. A stream that is given then is one that a new
session gives, and after any further uses it has the history that the same requests alone lead to
if it is the only stream of a new session. -/
theorem streams_undisturbed (site : Site) (ledger : Ledger) (notices : List Notice)
    (request : ReadRequest) {before after : List Operation}
    (hb : ∀ operation ∈ before, operation.keepsFile = true)
    (ha : ∀ operation ∈ after, operation.keepsFile = true) :
    let new := Session.start ⟨site.storage, site.source, site.registry, ledger, notices⟩ request
    let usage := run (start (.start site request)) before
    usage.session.detect = new.detect ∧ usage.session.nativeSchema.1 = new.nativeSchema.1 ∧
      usage.session.fileSchema.1 = new.fileSchema.1 ∧ usage.session.schema.1 = new.schema.1 ∧
      ∀ tableId, (usage.session.rows tableId).1 = (new.rows tableId).1 ∧
        ∀ stream, (new.rows tableId).1 = .ok stream →
          ∃ tracked, (run usage (.rows tableId :: after)).streams[usage.streams.length]? =
              some tracked ∧
            (run (start new) (.rows tableId ::
              after.filterMap (·.onto usage.streams.length))).streams = [tracked] := by
  intro new usage
  have hnew : new.Follows site request := Session.follows_start ⟨rfl, rfl, rfl⟩
  have hused : usage.session.Follows site request :=
    follows_run (Session.follows_start (.refl site)) hb
  refine ⟨hused.detect_eq.trans hnew.detect_eq.symm,
    hused.nativeSchema.1.trans hnew.nativeSchema.1.symm,
    hused.fileSchema.1.trans hnew.fileSchema.1.symm, (hused.same_schema hnew).outcome_eq,
    fun tableId => ?_⟩
  have hrows := (hused.same_rows hnew tableId).outcome_eq
  refine ⟨hrows, fun stream hstream => ?_⟩
  have hgiven := streams_step_rows (hrows.trans hstream)
  have halone : ((start new).step (.rows tableId)).streams = [⟨stream, []⟩] :=
    streams_step_rows hstream
  have hmirrors : (usage.step (.rows tableId)).Mirrors ((start new).step (.rows tableId)) site
      request usage.streams.length := by
    refine ⟨follows_step hused rfl, follows_step hnew rfl, _, ?_, halone⟩
    rw [hgiven, List.getElem?_append_right (Nat.le_refl _), Nat.sub_self]
    rfl
  exact (hmirrors.run ha).tracked

/-- A first stream of counts is given, and asked for a row. -/
def countsBefore : List Operation := [.schema, .rows none, .next 0]

/-- A second stream is read to its end, with questions and requests of the first one in between. -/
def countsAfter : List Operation :=
  [.next 1, .nativeSchema, .next 0, .next 1, .finish 0 .close, .next 1, .detect, .next 0, .next 1,
   .fileSchema, .next 1]

/-- Beside a stream that is closed early, a second stream of counts gives all rows, the breakdown
and the end, as it does alone. -/
theorem streams_undisturbed_counts :
    (∀ operation ∈ countsBefore, operation.keepsFile = true) ∧
      (∀ operation ∈ countsAfter, operation.keepsFile = true) ∧
      ∃ tracked,
        (run (run (start countsSession) countsBefore)
          (.rows (some "t") :: countsAfter)).streams[1]? = some tracked ∧
        tracked.history =
          [.asked (.ok (some (.row [.int 7, .text "2023"] (some "t")))),
            .asked (.ok (some (.row [.int (-5), .text "2023"] (some "t")))),
            .asked (.ok (some (.row [.null, .text "2023"] (some "t")))),
            .asked (.error (.broken .unreadable)), .asked (.ok none)] := by
  have hb : ∀ operation ∈ countsBefore, operation.keepsFile = true := by simp [countsBefore,
    Operation.keepsFile]
  have ha : ∀ operation ∈ countsAfter, operation.keepsFile = true := by simp [countsAfter,
    Operation.keepsFile]
  obtain ⟨_, _, _, _, hrows⟩ :=
    streams_undisturbed countsSite ⟨7, 3, 3⟩ [] countsSession.request hb ha
  obtain ⟨tracked, hplace, halone⟩ := (hrows (some "t")).2 _ rfl
  refine ⟨hb, ha, tracked, hplace, ?_⟩
  have hhistory := congrArg (List.map Tracked.history) halone
  exact (List.singleton_inj.mp hhistory).symm

end Usage

end OrcRows
