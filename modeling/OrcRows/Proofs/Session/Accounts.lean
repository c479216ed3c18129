import OrcRows.Proofs.Session.Rows
import OrcRows.Proofs.Session.Usage

/-!
# The accounts of a session in use

A stream and its history agree: a stream with an empty history is fresh, one whose history is rows
alone runs with an open reader, and any other one is over. Every use of a session keeps the
accounts: what is held belongs to the live streams, and each reader that was made belongs to a
stream that was asked for a row, to the declared type, or to an opening that failed.
-/

namespace OrcRows

/-- One item of a list is replaced: whether the old one and whether the new one was counted makes up
the difference. -/
theorem countP_set_add {α : Type} (p : α → Bool) {items : List α} {place : Nat} {old : α} (new : α)
    (h : items[place]? = some old) :
    (items.set place new).countP p + (p old).toNat = items.countP p + (p new).toNat := by
  have hcount : ∀ (item : α) (rest : List α),
      (item :: rest).countP p = rest.countP p + (p item).toNat := by
    intro item rest
    rw [List.countP_cons]
    cases p item <;> rfl
  induction items generalizing place with
  | nil => cases h
  | cons item rest ih =>
    cases place with
    | zero =>
      obtain rfl : item = old := Option.some.inj h
      rw [List.set_cons_zero, hcount, hcount]
      omega
    | succ place =>
      have hrest := ih h
      rw [List.set_cons_succ, hcount, hcount]
      omega

/-- One more item is counted or not. -/
theorem countP_append_singleton {α : Type} (p : α → Bool) (items : List α) (item : α) :
    (items ++ [item]).countP p = items.countP p + (p item).toNat := by
  rw [List.countP_append, List.countP_singleton]
  cases p item <;> rfl

namespace Tracked

/-- A stream is as far as its history says. -/
def IsConsistent (tracked : Tracked) : Prop :=
  match tracked.stream.progress with
  | .fresh => tracked.history = []
  | .running reader _ _ => reader.holding.isSome = true ∧ tracked.history.isLive = true
  | .ended => tracked.history ≠ [] ∧ tracked.history.isLive = false

variable {tracked : Tracked}

/-- A stream that was asked for a row and is not over holds one resource, and any other one holds
none. -/
theorem IsConsistent.held_eq (h : tracked.IsConsistent) :
    tracked.stream.held = tracked.history.isLive.toNat := by
  obtain ⟨⟨plan, handle, readerName, progress⟩, history⟩ := tracked
  cases progress with
  | fresh =>
    obtain rfl : history = [] := h
    rfl
  | running reader remainder emitted =>
    obtain ⟨hholds, hlive⟩ := h
    rw [hlive]
    exact Reader.held_of_isSome hholds
  | ended =>
    obtain ⟨_, hlive⟩ := h
    rw [hlive]
    rfl

/-- A stream that is as far as its history says is sound. -/
theorem IsConsistent.isSound (h : tracked.IsConsistent) : tracked.stream.IsSound := by
  obtain ⟨⟨plan, handle, readerName, progress⟩, history⟩ := tracked
  cases progress with
  | fresh => trivial
  | running reader remainder emitted => exact h.1
  | ended => trivial

/-- A stream that gives a row was not asked for anything yet, or is live. -/
theorem IsConsistent.isLive_of_row (h : tracked.IsConsistent) {site : Site} {row : Value}
    (hr : (tracked.stream.next site).outcome = .ok (some row)) :
    (tracked.history.isEmpty || tracked.history.isLive) = true := by
  obtain ⟨⟨plan, handle, readerName, progress⟩, history⟩ := tracked
  cases progress with
  | fresh =>
    obtain rfl : history = [] := h
    rfl
  | running reader remainder emitted => rw [h.2, Bool.or_true]
  | ended => cases hr

/-- The first request of a fresh stream advances it, and later ones change nothing about that. -/
theorem IsConsistent.isAdvanced_asked (h : tracked.IsConsistent)
    (outcome : Outcome (Option Value)) :
    (StreamHistory.isAdvanced (tracked.history ++ [.asked outcome])).toNat =
      tracked.history.isAdvanced.toNat + tracked.stream.pending := by
  obtain ⟨⟨plan, handle, readerName, progress⟩, history⟩ := tracked
  cases progress with
  | fresh =>
    obtain rfl : history = [] := h
    rfl
  | running reader remainder emitted =>
    have hne : history ≠ [] := by
      rintro rfl
      cases h.2
    rw [StreamHistory.isAdvanced_append hne]
    rfl
  | ended =>
    rw [StreamHistory.isAdvanced_append h.1]
    rfl

/-- A stream that is asked for a row stays as far as its history says. -/
theorem IsConsistent.asked (h : tracked.IsConsistent) {site : Site} {name : String}
    (hp : site.registry.pick tracked.stream.readerName = .ok name) :
    IsConsistent ⟨(tracked.stream.next site).stream,
      tracked.history ++ [.asked (tracked.stream.next site).outcome]⟩ := by
  obtain ⟨_, htold, _⟩ := Stream.moves_next h.isSound hp
  have hlive : ∀ row, (tracked.stream.next site).outcome = .ok (some row) →
      (tracked.history.isEmpty || tracked.history.isLive) = true :=
    fun row hr => h.isLive_of_row hr
  have hne : ∀ outcome, tracked.history ++ [.asked outcome] ≠ [] := by
    intro outcome hnil
    cases (List.append_eq_nil_iff.mp hnil).2
  have hover : ∀ outcome, (StreamEvent.asked outcome).isRow = false →
      StreamHistory.isLive (tracked.history ++ [.asked outcome]) = false := by
    intro outcome hrow
    rw [StreamHistory.isLive_append, hrow, Bool.and_false]
  generalize tracked.stream.next site = step at htold hlive
  obtain ⟨outcome, stream, after⟩ := step
  unfold Stream.IsToldBy at htold
  unfold IsConsistent
  cases outcome with
  | error fault =>
    simp only at htold
    simp only [htold]
    exact ⟨hne _, hover _ rfl⟩
  | ok given =>
    cases given with
    | none =>
      simp only at htold
      simp only [htold]
      exact ⟨hne _, hover _ rfl⟩
    | some row =>
      obtain ⟨reader, remainder, emitted, hprogress, hholds⟩ := htold
      simp only at hprogress
      simp only [hprogress]
      refine ⟨hholds, ?_⟩
      rw [StreamHistory.isLive_append, hlive row rfl]
      rfl

/-- A stream that is let go of is over. -/
theorem isConsistent_finished (stream : Stream) (history : StreamHistory) (ending : Ending) :
    IsConsistent ⟨stream.withProgress .ended, history ++ [.finished ending]⟩ := by
  constructor
  · intro hnil
    cases (List.append_eq_nil_iff.mp hnil).2
  · rw [StreamHistory.isLive_append]
    exact Bool.and_false _

/-- Letting go of a stream does not advance it. -/
theorem isAdvanced_finished (history : StreamHistory) (ending : Ending) :
    StreamHistory.isAdvanced (history ++ [.finished ending]) = history.isAdvanced := by
  cases history with
  | nil => rfl
  | cons first rest => cases first <;> rfl

end Tracked

namespace Usage

/-- The accounts of a session in use: each reader made and each resource held has a reason. -/
structure IsAccounted (usage : Usage) : Prop where
  /-- Readers were made in vain, for the declared type, and for streams asked for a row. -/
  built_eq : usage.session.site.ledger.built =
    usage.failedOpens + usage.session.native.isSome.toNat + usage.advanced
  /-- What is taken is let go, or held by a live stream. -/
  acquired_eq : usage.session.site.ledger.acquired =
    usage.session.site.ledger.released + usage.live
  /-- What the session knows was found in order. -/
  coherent : usage.session.IsCoherent
  /-- Each stream is as far as its history says, and there is a reader for it. -/
  consistent : ∀ tracked ∈ usage.streams, tracked.IsConsistent ∧
    ∃ name, usage.session.site.registry.pick tracked.stream.readerName = .ok name

variable {usage : Usage}

/-- Nothing was made or taken for a session that was not used yet. -/
theorem isAccounted_start (storage : Storage) (source : Source) (registry : Registry)
    (notices : List Notice) (request : ReadRequest) :
    (start (.start ⟨storage, source, registry, ⟨0, 0, 0⟩, notices⟩ request)).IsAccounted := by
  refine ⟨rfl, rfl, ⟨fun known => ?_, fun known => ?_⟩, fun tracked member => ?_⟩
  · cases known
  · cases known
  · cases member

/-- The accounts are kept when a question is asked. -/
theorem IsAccounted.answered (h : usage.IsAccounted) {asks : Bool} {session : Session}
    (hr : usage.session.Reaches session (asks && session.lacksType).toNat) :
    (usage.answered asks session).IsAccounted := by
  obtain ⟨⟨built, hleads, hcount⟩, _, hcoherent, _⟩ := hr
  have hbuilt := hleads.built_eq
  have hheld := hleads.held_eq
  have hbefore := h.built_eq
  have hacquired := h.acquired_eq
  refine ⟨?_, ?_, hcoherent, ?_⟩
  · simp only [Usage.answered, advanced] at hbefore ⊢
    omega
  · simp only [Usage.answered, live] at hacquired ⊢
    omega
  · intro tracked member
    obtain ⟨hconsistent, hpick⟩ := h.consistent tracked member
    refine ⟨hconsistent, ?_⟩
    simp only [Usage.answered]
    rw [hleads.registry_eq]
    exact hpick

/-- The accounts are kept when streams change together with the site: the readers made are those of
the streams that are advanced by it, and what is held follows the live streams. -/
theorem IsAccounted.changed (h : usage.IsAccounted) {site : Site} {streams : List Tracked}
    {built before after : Nat} (hl : usage.session.site.Leads site built before after)
    (ha : (streams.countP fun tracked => tracked.history.isAdvanced) = usage.advanced + built)
    (hv : (streams.countP fun tracked => tracked.history.isLive) + before = usage.live + after)
    (hs : ∀ tracked ∈ streams, tracked.IsConsistent ∧
      ∃ name, usage.session.site.registry.pick tracked.stream.readerName = .ok name) :
    IsAccounted ⟨usage.session.withSite site, streams, usage.failedOpens⟩ := by
  have hbuilt := hl.built_eq
  have hheld := hl.held_eq
  have hbefore := h.built_eq
  have hacquired := h.acquired_eq
  refine ⟨?_, ?_, ⟨h.coherent.native_known, fun known => ?_⟩, ?_⟩
  · simp only [Session.withSite, Usage.advanced] at ha hbefore ⊢
    omega
  · simp only [Session.withSite, Usage.live] at hv hacquired ⊢
    omega
  · have hreader := h.coherent.reader_known known
    rw [Session.hasReader] at hreader ⊢
    simp only [Session.withSite]
    rw [hl.registry_eq]
    exact hreader
  · simp only [Session.withSite]
    rw [hl.registry_eq]
    exact hs

/-- The accounts are kept when something happens to a stream: a reader is made if the event advances
it, and what it holds follows its history. -/
theorem IsAccounted.happened (h : usage.IsAccounted) {place : Nat} {tracked : Tracked}
    (ht : usage.streams[place]? = some tracked) {stream : Stream} {site : Site}
    {event : StreamEvent} {built : Nat}
    (hc : Tracked.IsConsistent ⟨stream, tracked.history ++ [event]⟩)
    (hn : stream.readerName = tracked.stream.readerName)
    (ha : (StreamHistory.isAdvanced (tracked.history ++ [event])).toNat =
      tracked.history.isAdvanced.toNat + built)
    (hl : usage.session.site.Leads site built tracked.stream.held stream.held) :
    (usage.happened place tracked stream site event).IsAccounted := by
  obtain ⟨hold, hpick⟩ := h.consistent tracked (List.mem_of_getElem? ht)
  have hadvanced := countP_set_add (fun tracked : Tracked => tracked.history.isAdvanced)
    ⟨stream, tracked.history ++ [event]⟩ ht
  have hlive := countP_set_add (fun tracked : Tracked => tracked.history.isLive)
    ⟨stream, tracked.history ++ [event]⟩ ht
  have hnew : stream.held = (StreamHistory.isLive (tracked.history ++ [event])).toNat := hc.held_eq
  rw [hold.held_eq, hnew] at hl
  refine h.changed hl ?_ ?_ ?_
  · rw [Usage.advanced]
    simp only at hadvanced
    omega
  · rw [Usage.live]
    simp only at hlive
    omega
  · intro other member
    rcases List.mem_or_eq_of_mem_set member with member | rfl
    · exact h.consistent other member
    · exact ⟨hc, hn ▸ hpick⟩

/-- The accounts are kept when a stream joins that was advanced exactly if a reader was made. -/
theorem IsAccounted.joined (h : usage.IsAccounted) {tracked : Tracked} {site : Site}
    (hc : tracked.IsConsistent) {name : String}
    (hp : usage.session.site.registry.pick tracked.stream.readerName = .ok name)
    (hl : usage.session.site.Leads site tracked.history.isAdvanced.toNat 0 tracked.stream.held) :
    IsAccounted ⟨usage.session.withSite site, usage.streams ++ [tracked], usage.failedOpens⟩ := by
  rw [hc.held_eq] at hl
  refine h.changed hl (countP_append_singleton _ _ _) (countP_append_singleton _ _ _) ?_
  intro other member
  rcases List.mem_append.mp member with member | member
  · exact h.consistent other member
  · obtain rfl := List.mem_singleton.mp member
    exact ⟨hc, name, hp⟩

/-- The accounts are kept when a stream is asked for. -/
theorem IsAccounted.step_rows (h : usage.IsAccounted) (tableId : Option String) :
    (usage.step (.rows tableId)).IsAccounted := by
  have hreaches := Session.reaches_rows h.coherent tableId
  rw [step]
  cases hrows : usage.session.rows tableId with
  | mk outcome session =>
    rw [hrows] at hreaches
    have hanswered := h.answered hreaches
    cases outcome with
    | error fault => exact hanswered
    | ok stream =>
      obtain ⟨hfresh, _, name, hpick⟩ := Session.stream_of_rows h.coherent hrows
      have hc : Tracked.IsConsistent ⟨stream, []⟩ := by
        unfold Tracked.IsConsistent
        simp only [hfresh]
      have hheld : stream.held = 0 := by
        rw [Stream.held, hfresh]
      refine hanswered.joined hc hpick ?_
      rw [hheld]
      exact .refl _ 0

/-- The accounts are kept when rows are handed to a sink, however that ends. -/
theorem IsAccounted.step_read (h : usage.IsAccounted) {State : Type} (tableId : Option String)
    (sink : State → Value → Outcome State) (state : State) :
    (usage.step (.read tableId sink state)).IsAccounted := by
  have hreaches := Session.reaches_rows h.coherent tableId
  obtain ⟨site, hread, hleads⟩ := Session.readInto_eq_withSite h.coherent tableId sink state
  rw [step]
  cases hrows : usage.session.rows tableId with
  | mk outcome session =>
    rw [hrows] at hreaches hread hleads
    have hanswered := h.answered hreaches
    have hlacks : (session.withSite site).lacksType = session.lacksType := by
      rw [Session.lacksType, Session.lacksType, Session.hasReader, Session.hasReader]
      simp only [Session.withSite]
      rw [hleads.registry_eq]
    cases outcome with
    | error fault =>
      have hsame : (usage.session.readInto tableId sink state).2.2 = session := by
        rw [Session.readInto, hrows]
      simp only
      rw [hsame]
      exact hanswered
    | ok stream =>
      obtain ⟨_, _, name, hpick⟩ := Session.stream_of_rows h.coherent hrows
      simp only
      rw [hread]
      simp only [Usage.answered, Usage.joined]
      rw [hlacks]
      refine hanswered.joined (Tracked.isConsistent_finished _ _ _) hpick ?_
      exact hleads

/-- The accounts are kept when a stream is asked for a row. -/
theorem IsAccounted.step_next (h : usage.IsAccounted) (place : Nat) :
    (usage.step (.next place)).IsAccounted := by
  rw [step]
  cases hplace : usage.streams[place]? with
  | none => exact h
  | some tracked =>
    obtain ⟨hconsistent, name, hpick⟩ := h.consistent tracked (List.mem_of_getElem? hplace)
    obtain ⟨hleads, _, hname⟩ := Stream.moves_next hconsistent.isSound hpick
    exact h.happened hplace (hconsistent.asked hpick) hname (hconsistent.isAdvanced_asked _) hleads

/-- The accounts are kept when a stream is let go of. -/
theorem IsAccounted.step_finish (h : usage.IsAccounted) (place : Nat) (ending : Ending) :
    (usage.step (.finish place ending)).IsAccounted := by
  rw [step]
  cases hplace : usage.streams[place]? with
  | none => exact h
  | some tracked =>
    obtain ⟨hleads, hclosed⟩ := Stream.leads_close tracked.stream usage.session.site
    simp only
    rw [hclosed]
    refine h.happened hplace (Tracked.isConsistent_finished _ _ _) rfl ?_ hleads
    rw [Tracked.isAdvanced_finished]
    rfl

/-- Every use of a session keeps the accounts. -/
theorem IsAccounted.step (h : usage.IsAccounted) (operation : Operation) :
    (usage.step operation).IsAccounted := by
  cases operation with
  | detect => exact h
  | nativeSchema => exact h.answered (Session.reaches_nativeSchema h.coherent)
  | fileSchema => exact h.answered (Session.reaches_fileSchema h.coherent)
  | schema => exact h.answered (Session.reaches_schema h.coherent)
  | rows tableId => exact h.step_rows tableId
  | next place => exact h.step_next place
  | finish place ending => exact h.step_finish place ending
  | read tableId sink state => exact h.step_read tableId sink state
  | change storage source =>
    have hleads : usage.session.site.Leads ⟨storage, source, usage.session.site.registry,
        usage.session.site.ledger, usage.session.site.notices⟩ 0 0 0 := ⟨rfl, rfl, rfl⟩
    exact h.changed hleads rfl rfl h.consistent

/-- Many uses of a session keep the accounts. -/
theorem IsAccounted.run (h : usage.IsAccounted) (operations : List Operation) :
    (usage.run operations).IsAccounted := by
  induction operations generalizing usage with
  | nil => exact h
  | cons operation rest ih => exact ih (h.step operation)

/-- After any uses of a session, the readers held are those of the streams that were asked for a row
and neither came to an end or a fault nor were let go of; readers were made for failed openings, for
the declared type if it is known, and for the streams that were asked for a row before they were let
go of. A stream that was not asked for a row holds none, and asking for rows of a file that is not
recognized changes nothing. -/
theorem ledger_run (storage : Storage) (source : Source) (registry : Registry)
    (notices : List Notice) (request : ReadRequest) (operations : List Operation) :
    let usage := run (start (.start ⟨storage, source, registry, ⟨0, 0, 0⟩, notices⟩ request))
      operations
    usage.session.site.ledger.released ≤ usage.session.site.ledger.acquired ∧
      usage.session.site.ledger.held = usage.live ∧
      usage.session.site.ledger.built =
        usage.failedOpens + usage.session.native.isSome.toNat + usage.advanced ∧
      (∀ tracked ∈ usage.streams, tracked.stream.held = tracked.history.isLive.toNat ∧
        (tracked.history.isAdvanced = false → tracked.stream.held = 0)) ∧
      ∀ tableId, usage.session.isRecognized = false →
        ∃ fault, usage.session.rows tableId = (.error fault, usage.session) := by
  intro usage
  have h : usage.IsAccounted :=
    (isAccounted_start storage source registry notices request).run operations
  have hacquired := h.acquired_eq
  refine ⟨by omega, ?_, h.built_eq, ?_, fun tableId hnot => ?_⟩
  · rw [Ledger.held]
    omega
  · intro tracked member
    obtain ⟨hconsistent, _⟩ := h.consistent tracked member
    have hheld := hconsistent.held_eq
    refine ⟨hheld, fun hnot => ?_⟩
    rw [hheld, StreamHistory.isLive_eq_false hnot]
    rfl
  · exact Session.rows_of_not_isRecognized hnot tableId

/-- Of two streams that are there, the one that was asked for a row has a reader; another reader was
made for the declared type. -/
example :
    let usage := run (start countsSession) [.rows none, .rows none, .next 0]
    usage.live = 1 ∧ usage.session.site.ledger = ⟨2, 2, 1⟩ := by
  exact ⟨rfl, rfl⟩

end Usage

end OrcRows
