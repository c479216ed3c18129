import OrcRows.Proofs.Session.Answers
import OrcRows.Proofs.Session.Stepwise

/-!
# What readers take hold of

The ledger counts readers that are made and resources that are taken and let go. `Site.Leads` says
how many readers are made between two sites and how many resources are held at either end. A reader
takes hold of at most one resource, a running stream holds exactly one, and a stream that is over
holds none; a question about the declared type leaves nothing held, whether it is answered or not.
-/

namespace OrcRows

/-- A site leads to another one: a number of readers is made in between, the number of resources
held goes from one number to another, and the same readers are registered. -/
structure Site.Leads (site site' : Site) (built before after : Nat) : Prop where
  /-- So many readers are made. -/
  built_eq : site'.ledger.built = site.ledger.built + built
  /-- What is taken and not let go makes up the difference. -/
  held_eq : site'.ledger.acquired + site.ledger.released + before =
    site.ledger.acquired + site'.ledger.released + after
  /-- The registry stays. -/
  registry_eq : site'.registry = site.registry

namespace Site.Leads

/-- Nothing happens. -/
theorem refl (site : Site) (held : Nat) : site.Leads site 0 held held := ⟨rfl, rfl, rfl⟩

/-- A notice takes no reader. -/
theorem note (site : Site) (notices : List Notice) (held : Nat) :
    site.Leads (site.note notices) 0 held held := ⟨rfl, rfl, rfl⟩

/-- One way goes on where another one ends. -/
theorem trans {site between site' : Site} {made built before middle after : Nat}
    (h : site.Leads between made before middle) (h' : between.Leads site' built middle after) :
    site.Leads site' (made + built) before after := by
  have hb := h.built_eq
  have hb' := h'.built_eq
  have hh := h.held_eq
  have hh' := h'.held_eq
  exact ⟨by omega, by omega, h'.registry_eq.trans h.registry_eq⟩

end Site.Leads

namespace Reader

/-- The number of resources that a reader holds. -/
def held (reader : Reader) : Nat := if reader.holding.isSome then 1 else 0

/-- A reader that holds something holds one resource. -/
theorem held_of_isSome {reader : Reader} (h : reader.holding.isSome = true) : reader.held = 1 := by
  rw [held, if_pos h]

/-- A reader is made, with what it holds from the beginning. -/
theorem leads_make (kind : ReaderKind) (handle : Handle) (site : Site) :
    site.Leads (make kind handle site).2 1 0 (make kind handle site).1.held := by
  cases kind with
  | table => exact ⟨rfl, rfl, rfl⟩
  | script =>
    refine ⟨rfl, ?_, rfl⟩
    simp only [make, held, Site.countBuilt, Site.countAcquired, Option.isSome_some, if_true]
    omega

/-- A reader that is released holds nothing any more. -/
theorem leads_release (reader : Reader) (site : Site) :
    site.Leads (reader.release site).2 0 reader.held 0 := by
  rw [release]
  cases hholding : reader.holding with
  | none =>
    rw [held, hholding]
    exact .refl site 0
  | some holding =>
    rw [held, hholding]
    refine ⟨rfl, ?_, rfl⟩
    simp only [Site.countReleased, Option.isSome_some, if_true]
    omega

/-- A new reader that is opened holds a resource; one that cannot be opened holds what it held. -/
theorem leads_acquire {kind : ReaderKind} {handle : Handle} {site between site' : Site}
    {reader : Reader} {opened : Outcome (Reader × NativeType)}
    (made : make kind handle site = (reader, between))
    (h : reader.acquire between = (opened, site')) :
    match opened with
    | .ok (reader', _) => between.Leads site' 0 reader.held 1 ∧ reader'.holding.isSome = true
    | .error _ => between.Leads site' 0 reader.held reader.held := by
  cases kind with
  | table =>
    obtain ⟨rfl, rfl⟩ := Prod.mk.inj made
    simp only [acquire, openTable] at h
    split at h
    · cases h
      exact .refl _ _
    · cases h
      exact .refl _ _
    · split at h
      · cases h
        refine ⟨rfl, ?_, rfl⟩
        simp only [Site.countAcquired, Site.countReleased]
        omega
      · cases h
        refine ⟨⟨rfl, ?_, rfl⟩, rfl⟩
        simp only [Site.countAcquired, held, Option.isSome_none, Bool.false_eq_true, if_false]
        omega
  | script =>
    obtain ⟨rfl, rfl⟩ := Prod.mk.inj made
    simp only [acquire, openScript] at h
    split at h
    · cases h
      exact .refl _ _
    · cases h
      exact ⟨.refl _ _, rfl⟩

end Reader

namespace Stream

/-- A running stream has a reader that holds something. -/
def IsSound (stream : Stream) : Prop :=
  match stream.progress with
  | .running reader _ _ => reader.holding.isSome = true
  | _ => True

/-- The number of resources that a stream holds. -/
def held (stream : Stream) : Nat :=
  match stream.progress with
  | .running reader _ _ => reader.held
  | _ => 0

/-- The number of readers that a stream has still to make. -/
def pending (stream : Stream) : Nat :=
  match stream.progress with
  | .fresh => 1
  | _ => 0

/-- After a row a stream runs, with one resource held; after the end or a fault it is over. -/
def IsToldBy (stream : Stream) (outcome : Outcome (Option Value)) : Prop :=
  match outcome with
  | .ok (some _) => ∃ reader remainder emitted,
      stream.progress = .running reader remainder emitted ∧ reader.holding.isSome = true
  | _ => stream.progress = .ended

/-- A step of a stream makes a number of readers, and the stream is told what the step gives. -/
structure Moves (stream : Stream) (site : Site) (step : StreamStep) (built before : Nat) :
    Prop where
  /-- The site of the step has what the stream holds then. -/
  leads : site.Leads step.site built before step.stream.held
  /-- The stream after the step is as the outcome says. -/
  told : step.stream.IsToldBy step.outcome
  /-- The stream asks for the same reader. -/
  readerName_eq : step.stream.readerName = stream.readerName

variable {stream : Stream} {site : Site}

/-- A fault lets go of what the reader holds. -/
theorem moves_fail (stream : Stream) (reader : Reader) (emitted : Nat) (fault : Fault)
    (site : Site) :
    stream.Moves site (stream.fail reader emitted fault site) 0 reader.held := by
  have hrelease := Reader.leads_release reader site
  cases fault with
  | broken cause => exact ⟨hrelease, rfl, rfl⟩
  | reported report => exact ⟨hrelease.trans (.note _ _ 0), rfl, rfl⟩

/-- Going on keeps the reader as long as there are rows. -/
theorem moves_advance (stream : Stream) {reader : Reader} (h : reader.holding.isSome = true)
    (remainder : Remainder) (emitted : Nat) (site : Site) :
    stream.Moves site (stream.advance reader remainder emitted site) 0 reader.held := by
  rw [advance]
  split
  · exact moves_fail stream reader emitted _ site
  · exact ⟨reader.leads_release site, rfl, rfl⟩
  · exact ⟨.refl site reader.held, ⟨reader, _, _, rfl, h⟩, rfl⟩

/-- Beginning makes one reader, which is kept only if there is a first row. -/
theorem moves_begin {name : String} (h : site.registry.pick stream.readerName = .ok name) :
    stream.Moves site (stream.begin site) 1 0 := by
  rw [begin, h]
  simp only
  have hmake := Reader.leads_make (Registry.kindOf name) stream.handle site
  cases hmade : Reader.make (Registry.kindOf name) stream.handle site with
  | mk reader between =>
    rw [hmade] at hmake
    simp only
    cases hacquire : reader.acquire between with
    | mk opened site' =>
      have hopen := Reader.leads_acquire hmade hacquire
      cases opened with
      | error fault =>
        obtain ⟨hleads, htold, hname⟩ := moves_fail stream reader 0 fault site'
        exact ⟨(hmake.trans hopen).trans hleads, htold, hname⟩
      | ok opened =>
        obtain ⟨reader', native⟩ := opened
        obtain ⟨hopen, hholds⟩ := hopen
        have hone := Reader.held_of_isSome hholds
        simp only
        cases reader'.feed stream.plan.names with
        | error fault =>
          obtain ⟨hleads, htold, hname⟩ := moves_fail stream reader' 0 fault site'
          rw [hone] at hleads
          exact ⟨(hmake.trans hopen).trans hleads, htold, hname⟩
        | ok feed =>
          obtain ⟨hleads, htold, hname⟩ := moves_advance stream hholds (.ofFeed feed) 0 site'
          rw [hone] at hleads
          exact ⟨(hmake.trans hopen).trans hleads, htold, hname⟩

/-- A request of a stream makes the reader that the stream has still to make, if any. -/
theorem moves_next (sound : stream.IsSound) {name : String}
    (h : site.registry.pick stream.readerName = .ok name) :
    stream.Moves site (stream.next site) stream.pending stream.held := by
  rw [IsSound] at sound
  rw [next, pending, held]
  cases hprogress : stream.progress with
  | fresh => exact moves_begin h
  | running reader remainder emitted =>
    rw [hprogress] at sound
    exact moves_advance stream sound remainder emitted site
  | ended =>
    refine ⟨?_, hprogress, rfl⟩
    rw [held, hprogress]
    exact .refl site 0

/-- What a stream is told of leaves it sound. -/
theorem IsToldBy.isSound {outcome : Outcome (Option Value)} (h : stream.IsToldBy outcome) :
    stream.IsSound := by
  unfold IsToldBy at h
  rw [IsSound]
  split at h
  · obtain ⟨reader, remainder, emitted, hprogress, hholds⟩ := h
    rw [hprogress]
    exact hholds
  · rw [h]
    trivial

/-- A stream that is told a row or the end has made its reader. -/
theorem IsToldBy.pending_eq {outcome : Outcome (Option Value)} (h : stream.IsToldBy outcome) :
    stream.pending = 0 := by
  unfold IsToldBy at h
  rw [pending]
  split at h
  · obtain ⟨reader, remainder, emitted, hprogress, _⟩ := h
    rw [hprogress]
  · rw [h]

/-- A closed stream holds nothing, and is over. -/
theorem leads_close (stream : Stream) (site : Site) :
    site.Leads (stream.close site).2 0 stream.held 0 ∧
      (stream.close site).1 = stream.withProgress .ended := by
  rw [close, held]
  cases stream.progress with
  | fresh => exact ⟨.refl site 0, rfl⟩
  | running reader remainder emitted => exact ⟨reader.leads_release site, rfl⟩
  | ended => exact ⟨.refl site 0, rfl⟩

/-- Handing rows to a sink makes the reader that the stream has still to make, however the sink
ends. -/
theorem leads_pour {State : Type} (sink : State → Value → Outcome State) (limit : Nat)
    (state : State) (taken : Nat) (sound : stream.IsSound) {name : String}
    (h : site.registry.pick stream.readerName = .ok name) :
    site.Leads (pour sink (limit + 1) state taken stream site).site stream.pending stream.held
      (pour sink (limit + 1) state taken stream site).stream.held := by
  induction limit generalizing state taken stream site with
  | zero =>
    obtain ⟨hleads, _, _⟩ := moves_next sound h
    rw [pour]
    split
    · exact hleads
    · exact hleads
    · split
      · exact hleads
      · exact hleads
  | succ limit ih =>
    obtain ⟨hleads, htold, hname⟩ := moves_next sound h
    rw [pour]
    split
    · exact hleads
    · exact hleads
    case h_3 row houtcome =>
      cases sink state row with
      | error fault => exact hleads
      | ok next =>
        have hpick := hleads.registry_eq ▸ hname ▸ h
        have hrest := ih next (taken + 1) htold.isSound hpick
        rw [htold.pending_eq] at hrest
        exact hleads.trans hrest

end Stream

end OrcRows
