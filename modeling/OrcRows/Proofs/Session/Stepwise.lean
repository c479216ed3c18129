import OrcRows.Proofs.Session.Reference

/-!
# A stream, request by request

What is left of a stream is a list of outcomes: `Stream.expected`. A request gives the first of them
and leaves the others, so all requests together give all of them in order. The first fault, or the
end, leaves nothing.
-/

namespace OrcRows

namespace ReadPlan

variable {plan : ReadPlan}

/-- What an item gives before the file is known. -/
def raw (plan : ReadPlan) (emitted : Nat) : FeedItem → Outcome Value
  | .row batch index => plan.row batch index emitted
  | .fault fault => .error fault

/-- What an item gives. -/
def resolve (plan : ReadPlan) (emitted : Nat) (item : FeedItem) : Outcome Value :=
  (plan.raw emitted item).addContext plan.pathFact

/-- The fault of a cell that is told column, row and file is a located fault. -/
theorem addContext_eq_located {fault : Fault} (h : fault.Mentions cellFacts) (name : String)
    (emitted : Nat) :
    (fault.addContext [("column", .text name), ("file_row", .int emitted)]).addContext
      plan.pathFact = plan.located name emitted fault := by
  cases fault with
  | broken cause => rfl
  | reported report =>
    obtain ⟨kind, message, context⟩ := report
    have hfresh : ∀ name, name ∉ cellFacts → context.any (·.1 == name) = false := by
      intro name hn
      rw [List.any_eq_false]
      intro fact hf same
      exact hn (beq_iff_eq.mp same ▸ h fact hf)
    have hcolumn := hfresh "column" (by decide)
    have hrow := hfresh "file_row" (by decide)
    have hpath := hfresh "path" (by decide)
    simp [Fault.addContext, Report.addContext, Report.addFact, Report.knows, pathFact, located,
      hcolumn, hrow, hpath]

/-- The cell of a plan is the cell of its column, with column and row added to a report. -/
theorem cell_eq_addContext (row emitted : Nat) (column : PlanColumn)
    (vector : Option ColumnVector) :
    plan.cell row emitted column vector = (plan.cellOf row column vector).addContext
      [("column", .text column.name), ("file_row", .int emitted)] := by
  cases vector <;> rfl

/-- A row of a batch gives what it resolves to. -/
theorem gives_resolve_row {batch : Batch} (width : batch.columns.length = plan.columns.length)
    (index emitted : Nat) :
    plan.Gives emitted (.row batch index) (plan.resolve emitted (.row batch index)) := by
  have hzip : ∀ {place : Nat} {column : PlanColumn} {vector : Option ColumnVector},
      plan.columns[place]? = some column → batch.columns[place]? = some vector →
      (plan.columns.zip batch.columns)[place]? = some (column, vector) :=
    fun hc hv => List.getElem?_zip_eq_some.mpr ⟨hc, hv⟩
  rw [resolve, raw, row]
  cases hcells : plan.cells batch index emitted with
  | ok cells =>
    refine .row ?_ ?_
    · rw [Outcome.length_of_mapM_eq_ok hcells, List.length_zip, width, Nat.min_self]
    · intro place column vector hc hv
      obtain ⟨cell, hcell, hread⟩ := Outcome.getElem?_of_mapM_eq_ok hcells (hzip hc hv)
      simp only [cell_eq_addContext] at hread
      refine ⟨cell, hcell, ?_⟩
      cases hof : plan.cellOf index column vector with
      | ok other =>
        rw [hof] at hread
        exact hread
      | error fault =>
        rw [hof] at hread
        cases hread
  | error fault =>
    obtain ⟨place, ⟨column, vector⟩, hpair, hfault, hbefore⟩ :=
      Outcome.exists_of_mapM_eq_error hcells
    obtain ⟨hc, hv⟩ := List.getElem?_zip_eq_some.mp hpair
    simp only [cell_eq_addContext] at hfault hbefore
    cases hof : plan.cellOf index column vector with
    | ok value =>
      rw [hof] at hfault
      cases hfault
    | error cause =>
      rw [hof] at hfault
      injection hfault with same
      have hmentions : cause.Mentions cellFacts := by
        cases vector with
        | none => cases hof
        | some vector =>
          have habout := aboutCell_cell plan.policy vector column.declared (some column.type) index
          rw [cellOf] at hof
          rwa [hof] at habout
      have hgives : plan.Gives emitted (.row batch index)
          (.error (plan.located column.name emitted cause)) := by
        refine .cell hc hv hof fun earlier other otherVector he hec hev => ?_
        obtain ⟨result, hresult⟩ := hbefore earlier _ he (hzip hec hev)
        cases hother : plan.cellOf index other otherVector with
        | ok value => exact ⟨value, rfl⟩
        | error fault =>
          simp only [hother] at hresult
          cases hresult
      rw [← addContext_eq_located hmentions] at hgives
      rw [← same]
      exact hgives

/-- An item of a feed gives what it resolves to. -/
theorem gives_resolve {served : Outcome (Option Batch)} {item : FeedItem}
    (h : item ∈ plan.itemsOf served) (emitted : Nat) :
    plan.Gives emitted item (plan.resolve emitted item) := by
  rw [itemsOf.eq_def] at h
  split at h
  · rw [List.mem_singleton.mp h]
    exact .fault
  · exact absurd h List.not_mem_nil
  · split at h
    case isTrue width =>
      obtain ⟨index, _, rfl⟩ := List.mem_map.mp h
      exact gives_resolve_row width index emitted
    case isFalse =>
      rw [List.mem_singleton.mp h]
      exact .fault

/-- The items that are left. -/
def itemsLeft (plan : ReadPlan) (remainder : Remainder) : List FeedItem :=
  (List.range' remainder.row (remainder.batch.size - remainder.row)).map (.row remainder.batch) ++
    remainder.feed.flatMap plan.itemsOf

/-- What is pulled off items: nothing if there are none, the fault of the first, or its row with the
others left. -/
def Pulls (plan : ReadPlan) (emitted : Nat) (items : List FeedItem)
    (pulled : Outcome (Option (Value × Remainder))) : Prop :=
  match items with
  | [] => pulled = .ok none
  | item :: rest =>
    match plan.raw emitted item with
    | .error fault => pulled = .error fault
    | .ok row => ∃ remainder, pulled = .ok (some (row, remainder)) ∧ plan.itemsLeft remainder = rest

/-- A row of a batch is pulled before the rows after it. -/
theorem pulls_row {batch : Batch} {index emitted : Nat} {feed : Feed} (h : index < batch.size) :
    plan.Pulls emitted (plan.itemsLeft ⟨batch, index, feed⟩) (do
      let row ← plan.row batch index emitted
      return some (row, ⟨batch, index + 1, feed⟩)) := by
  obtain ⟨left, hleft⟩ : ∃ left, batch.size - index = left + 1 := ⟨batch.size - index - 1, by omega⟩
  have hnext : batch.size - (index + 1) = left := by omega
  simp only [itemsLeft, hleft, List.range'_succ, List.map_cons, List.cons_append]
  rw [Pulls]
  simp only [raw]
  cases plan.row batch index emitted with
  | error fault => rfl
  | ok row => exact ⟨_, rfl, by rw [itemsLeft, hnext]⟩

/-- What is pulled off a feed is pulled off its items. -/
theorem pulls_pullFeed (emitted : Nat) (feed : Feed) :
    plan.Pulls emitted (feed.flatMap plan.itemsOf) (plan.pullFeed emitted feed) := by
  induction feed with
  | nil => rfl
  | cons served rest ih =>
    rw [List.flatMap_cons]
    cases served with
    | error fault => rfl
    | ok batch =>
      cases batch with
      | none => exact ih
      | some batch =>
        rw [itemsOf, pullFeed, checkWidth]
        split
        case isFalse => rfl
        case isTrue width =>
          rw [Outcome.ok_bind]
          split
          case isTrue empty => simpa [empty] using ih
          case isFalse filled =>
            exact pulls_row (Nat.pos_of_ne_zero filled)

/-- What is pulled is pulled off the items that are left. -/
theorem pulls_pull (emitted : Nat) (remainder : Remainder) :
    plan.Pulls emitted (plan.itemsLeft remainder) (plan.pull emitted remainder) := by
  rw [pull]
  split
  case isTrue within => exact pulls_row within
  case isFalse past =>
    have hnone : remainder.batch.size - remainder.row = 0 := by omega
    rw [itemsLeft, hnone]
    exact pulls_pullFeed emitted remainder.feed

end ReadPlan

/-- A reader serves, once it is open, what its kind serves; a reader that was made is as good. -/
theorem Site.serves_eq (site : Site) (kind : ReaderKind) (handle : Handle) (names : List String) :
    site.serves kind handle names =
      match (Reader.make kind handle site).1.acquire (Reader.make kind handle site).2 with
      | (.error fault, _) => .error fault
      | (.ok (reader, _), _) => reader.feed names := by
  cases kind with
  | script =>
    simp only [serves, Reader.make, Reader.acquire, Reader.openScript, countBuilt, countAcquired]
    cases site.source.asScript.refusal with
    | some fault => rfl
    | none => rfl
  | table =>
    simp only [serves, Reader.make, Reader.acquire, Reader.openTable, countBuilt]
    cases site.storage.read handle with
    | error fault => cases fault <;> rfl
    | ok bytes =>
      simp only
      cases Reader.tableSchema handle site.source.asTable with
      | error fault => rfl
      | ok schema => rfl

/-- What a reader serves is what the source at its site holds. -/
theorem Site.serves_eq_ok {site : Site} {kind : ReaderKind} {handle : Handle} {names : List String}
    {feed : Feed} (h : site.serves kind handle names = .ok feed) :
    feed = match site.source with
      | .table table => table.feed handle.uri names
      | .script script => script.batches.map fun batch => batch.map some := by
  cases kind with
  | script =>
    cases hsource : site.source with
    | table table => simp [serves, hsource, Source.asScript] at h
    | script script =>
      simp only [serves, hsource, Source.asScript] at h
      split at h
      · cases h
      · cases h
        rfl
  | table =>
    rw [serves] at h
    split at h
    · cases h
    · cases h
    · cases hsource : site.source with
      | table table =>
        rw [hsource] at h
        cases hschema : Reader.tableSchema handle table with
        | error fault => simp [Source.asTable, hschema, Except.map] at h
        | ok schema =>
          simp only [Source.asTable, hschema, Except.map, Except.ok.injEq] at h
          exact h.symm
      | script script =>
        simp [hsource, Source.asTable, Reader.tableSchema, Table.malformed, Except.map] at h

namespace Stream

/-- What is left of a stream. -/
def expected (stream : Stream) (site : Site) : List (Outcome Value) :=
  match stream.progress with
  | .ended => []
  | .running _ remainder emitted =>
    (stream.plan.itemsLeft remainder).mapIdx fun place item =>
      stream.plan.resolve (emitted + place) item
  | .fresh =>
    match stream.items site with
    | .error fault => [.error fault]
    | .ok items => items.mapIdx stream.plan.resolve

/-- A request gives the first of some outcomes and leaves the others, at whatever site. -/
def Gives (step : StreamStep) : List (Outcome Value) → Prop
  | [] => step.outcome = .ok none ∧ ∀ site, step.stream.expected site = []
  | .error fault :: _ => step.outcome = .error fault ∧ ∀ site, step.stream.expected site = []
  | .ok row :: rest => step.outcome = .ok (some row) ∧ ∀ site, step.stream.expected site = rest

/-- A fault that ends a stream says the file. -/
theorem fail_spec (stream : Stream) (reader : Reader) (emitted : Nat) (fault : Fault)
    (site : Site) :
    (stream.fail reader emitted fault site).outcome =
        .error (fault.addContext stream.plan.pathFact) ∧
      (stream.fail reader emitted fault site).stream = stream.withProgress .ended := by
  cases fault with
  | broken cause => exact ⟨rfl, rfl⟩
  | reported report => exact ⟨rfl, rfl⟩

/-- Going on gives the first of the items that are left. -/
theorem gives_advance (stream : Stream) (reader : Reader) (remainder : Remainder) (emitted : Nat)
    (site : Site) :
    Gives (stream.advance reader remainder emitted site)
      ((stream.plan.itemsLeft remainder).mapIdx fun place item =>
        stream.plan.resolve (emitted + place) item) := by
  have hpull : stream.plan.Pulls emitted (stream.plan.itemsLeft remainder)
      (stream.plan.pull emitted remainder) := ReadPlan.pulls_pull emitted remainder
  rw [advance]
  cases hitems : stream.plan.itemsLeft remainder with
  | nil =>
    rw [hitems] at hpull
    rw [hpull]
    exact ⟨rfl, fun _ => rfl⟩
  | cons item rest =>
    rw [hitems] at hpull
    rw [List.mapIdx_cons, Nat.add_zero]
    simp only [ReadPlan.Pulls] at hpull
    rw [ReadPlan.resolve]
    cases hraw : stream.plan.raw emitted item with
    | error fault =>
      rw [hraw] at hpull
      simp only [hpull]
      obtain ⟨houtcome, hstream⟩ := fail_spec stream reader emitted fault site
      exact ⟨houtcome, fun _ => by rw [hstream]; rfl⟩
    | ok row =>
      rw [hraw] at hpull
      obtain ⟨remainder', hpulled, hleft⟩ := hpull
      simp only [hpulled]
      refine ⟨rfl, fun _ => ?_⟩
      rw [expected]
      simp only [withProgress, hleft]
      congr 1
      funext place item
      rw [Nat.add_right_comm, Nat.add_assoc]

/-- Beginning gives the first of all items. -/
theorem gives_begin (stream : Stream) (site : Site) :
    Gives (stream.begin site)
      (match stream.items site with
       | .error fault => [.error fault]
       | .ok items => items.mapIdx stream.plan.resolve) := by
  rw [begin, items]
  cases site.registry.pick stream.readerName with
  | error fault => exact ⟨rfl, fun _ => rfl⟩
  | ok name =>
    simp only [Except.map]
    rw [Site.serves_eq]
    cases hacquired : (Reader.make (Registry.kindOf name) stream.handle site).1.acquire
        (Reader.make (Registry.kindOf name) stream.handle site).2 with
    | mk opened after =>
      cases opened with
      | error fault =>
        obtain ⟨houtcome, hstream⟩ := fail_spec stream
          (Reader.make (Registry.kindOf name) stream.handle site).1 0 fault after
        exact ⟨houtcome, fun _ => by rw [hstream]; rfl⟩
      | ok opened =>
        obtain ⟨reader, native⟩ := opened
        simp only
        cases hfeed : reader.feed stream.plan.names with
        | error fault =>
          obtain ⟨houtcome, hstream⟩ := fail_spec stream reader 0 fault after
          exact ⟨houtcome, fun _ => by rw [hstream]; rfl⟩
        | ok feed =>
          have hadvance := gives_advance stream reader (.ofFeed feed) 0 after
          simp only [Nat.zero_add] at hadvance
          exact hadvance

/-- A request gives the first outcome that is left. -/
theorem gives_next (stream : Stream) (site : Site) :
    Gives (stream.next site) (stream.expected site) := by
  rw [next, expected]
  cases hprogress : stream.progress with
  | fresh => exact gives_begin stream site
  | running reader remainder emitted => exact gives_advance stream reader remainder emitted site
  | ended => exact ⟨rfl, fun _ => by simp only [expected, hprogress]⟩

/-- A request is answered by the first of the outcomes, and later ones by what is left. -/
theorem answers_of_gives {step : StreamStep} {left : List (Outcome Value)} {count : Nat}
    {later : List (Outcome (Option Value))} (h : Gives step left)
    (hl : ∀ rest, (∀ site, step.stream.expected site = rest) → later = answers count rest) :
    step.outcome :: later = answers (count + 1) left := by
  cases left with
  | nil => rw [h.1, hl [] h.2, answers]
  | cons first rest =>
    cases first with
    | error fault => rw [h.1, hl [] h.2, answers]
    | ok row => rw [h.1, hl rest h.2, answers]

/-- Requests give what is left of a stream, one by one. -/
theorem calls_of_expected (sites : List Site) {stream : Stream} {left : List (Outcome Value)}
    (h : ∀ site, stream.expected site = left) : stream.calls sites = answers sites.length left := by
  induction sites generalizing stream left with
  | nil => rfl
  | cons site sites ih =>
    have hstep := gives_next stream site
    rw [h site] at hstep
    exact answers_of_gives hstep fun rest hr => ih hr

/-- Requests give what a stream is left with at the site of the first. -/
theorem calls_eq_answers (stream : Stream) (site : Site) (sites : List Site) :
    stream.calls (site :: sites) = answers (sites.length + 1) (stream.expected site) :=
  answers_of_gives (gives_next stream site) fun _ hr => calls_of_expected sites hr

end Stream

end OrcRows
