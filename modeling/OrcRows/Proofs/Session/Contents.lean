import OrcRows.Proofs.Session.Answers
import OrcRows.Proofs.Session.Stepwise

/-!
# What answers depend on

Readers, streams and sessions look at the files of a site, at what readers find in them and at the
registered readers. They look neither at the ledger nor at the journal, and write to nothing else.
So they give the same at all sites that agree, and leave sites that agree.
-/

namespace OrcRows

/-- Two sites agree in all but ledger and journal. -/
structure Site.Agrees (site site' : Site) : Prop where
  /-- The files are the same. -/
  storage_eq : site'.storage = site.storage
  /-- Readers find the same. -/
  source_eq : site'.source = site.source
  /-- The same readers are registered. -/
  registry_eq : site'.registry = site.registry

namespace Site.Agrees

/-- A site agrees with itself. -/
theorem refl (site : Site) : site.Agrees site := ⟨rfl, rfl, rfl⟩

/-- Agreement goes both ways. -/
theorem symm {site site' : Site} (h : site.Agrees site') : site'.Agrees site :=
  ⟨h.storage_eq.symm, h.source_eq.symm, h.registry_eq.symm⟩

/-- Sites that agree with one site agree. -/
theorem trans {site between site' : Site} (h : site.Agrees between) (h' : between.Agrees site') :
    site.Agrees site' :=
  ⟨h'.storage_eq.trans h.storage_eq, h'.source_eq.trans h.source_eq,
    h'.registry_eq.trans h.registry_eq⟩

end Site.Agrees

namespace Reader

variable {site site' : Site}

/-- Making a reader is written to the ledger alone. -/
theorem agrees_make (kind : ReaderKind) (handle : Handle) (site : Site) :
    site.Agrees (make kind handle site).2 := by
  cases kind with
  | table => exact ⟨rfl, rfl, rfl⟩
  | script => exact ⟨rfl, rfl, rfl⟩

/-- Readers made at sites that agree are the same. -/
theorem make_eq (h : site.Agrees site') (kind : ReaderKind) (handle : Handle) :
    (make kind handle site').1 = (make kind handle site).1 := by
  cases kind with
  | table => rfl
  | script => simp only [make, h.source_eq]

/-- Opening a reader is written to the ledger alone. -/
theorem agrees_acquire (reader : Reader) (site : Site) : site.Agrees (reader.acquire site).2 := by
  rw [acquire]
  split
  · exact .refl site
  · rw [openTable]
    split
    · exact .refl site
    · exact .refl site
    · simp only
      split
      · exact ⟨rfl, rfl, rfl⟩
      · exact ⟨rfl, rfl, rfl⟩
  · exact .refl site

/-- A reader opened at sites that agree is the same. -/
theorem acquire_eq (h : site.Agrees site') (reader : Reader) :
    (reader.acquire site').1 = (reader.acquire site).1 := by
  rw [acquire, acquire]
  split
  · rfl
  · rw [openTable, openTable, h.storage_eq, h.source_eq]
    split
    · rfl
    · rfl
    · simp only
      split <;> rfl
  · rw [openScript, openScript, h.source_eq]

/-- Releasing a reader is written to the ledger alone. -/
theorem agrees_release (reader : Reader) (site : Site) : site.Agrees (reader.release site).2 := by
  rw [release]
  split
  · exact .refl site
  · exact ⟨rfl, rfl, rfl⟩

end Reader

namespace Stream

variable {site site' : Site}

/-- A fault that ends a stream is written to ledger and journal alone. -/
theorem agrees_fail (stream : Stream) (reader : Reader) (emitted : Nat) (fault : Fault)
    (site : Site) : site.Agrees (stream.fail reader emitted fault site).site := by
  have hrelease := reader.agrees_release site
  cases fault with
  | broken cause => exact hrelease
  | reported report => exact hrelease.trans ⟨rfl, rfl, rfl⟩

/-- Going on is written to ledger and journal alone. -/
theorem agrees_advance (stream : Stream) (reader : Reader) (remainder : Remainder) (emitted : Nat)
    (site : Site) : site.Agrees (stream.advance reader remainder emitted site).site := by
  rw [advance]
  split
  · exact stream.agrees_fail reader emitted _ site
  · exact reader.agrees_release site
  · exact .refl site

/-- Beginning is written to ledger and journal alone. -/
theorem agrees_begin (stream : Stream) (site : Site) : site.Agrees (stream.begin site).site := by
  rw [begin]
  cases site.registry.pick stream.readerName with
  | error fault => exact .refl site
  | ok name =>
    have hmake := Reader.agrees_make (Registry.kindOf name) stream.handle site
    simp only
    cases hmade : Reader.make (Registry.kindOf name) stream.handle site with
    | mk reader between =>
      rw [hmade] at hmake
      have hacquire := reader.agrees_acquire between
      simp only
      cases hacquired : reader.acquire between with
      | mk opened last =>
        rw [hacquired] at hacquire
        have hopen := hmake.trans hacquire
        cases opened with
        | error fault => exact hopen.trans (stream.agrees_fail reader 0 fault last)
        | ok opened =>
          simp only
          cases opened.1.feed stream.plan.names with
          | error fault => exact hopen.trans (stream.agrees_fail opened.1 0 fault last)
          | ok feed => exact hopen.trans (stream.agrees_advance opened.1 (.ofFeed feed) 0 last)

/-- A request of a stream is written to ledger and journal alone. -/
theorem agrees_next (stream : Stream) (site : Site) : site.Agrees (stream.next site).site := by
  rw [next]
  split
  · exact .refl site
  · exact stream.agrees_advance _ _ _ site
  · exact stream.agrees_begin site

/-- Closing a stream is written to the ledger alone. -/
theorem agrees_close (stream : Stream) (site : Site) : site.Agrees (stream.close site).2 := by
  rw [close]
  split
  · exact Reader.agrees_release _ site
  · exact .refl site

/-- A closed stream is over. -/
theorem close_fst (stream : Stream) (site : Site) :
    (stream.close site).1 = stream.withProgress .ended := by
  rw [close]
  split <;> rfl

/-- Handing rows to a sink is written to ledger and journal alone. -/
theorem agrees_pour {State : Type} (sink : State → Value → Outcome State) (limit : Nat)
    (state : State) (taken : Nat) (stream : Stream) (site : Site) :
    site.Agrees (stream.pour sink limit state taken site).site := by
  induction limit generalizing state taken stream site with
  | zero => exact .refl site
  | succ limit ih =>
    have hnext := stream.agrees_next site
    rw [pour]
    split
    · exact hnext
    · exact hnext
    · split
      · exact hnext
      · exact hnext.trans (ih _ _ _ _)

/-- Two steps give the same and leave the same stream. -/
def SameStep (step step' : StreamStep) : Prop :=
  step'.outcome = step.outcome ∧ step'.stream = step.stream

/-- A fault ends a stream in the same way everywhere. -/
theorem sameStep_fail (stream : Stream) (reader : Reader) (emitted : Nat) (fault : Fault)
    (site site' : Site) :
    SameStep (stream.fail reader emitted fault site) (stream.fail reader emitted fault site') := by
  obtain ⟨houtcome, hstream⟩ := stream.fail_spec reader emitted fault site
  obtain ⟨houtcome', hstream'⟩ := stream.fail_spec reader emitted fault site'
  exact ⟨houtcome'.trans houtcome.symm, hstream'.trans hstream.symm⟩

/-- A stream goes on in the same way everywhere. -/
theorem sameStep_advance (stream : Stream) (reader : Reader) (remainder : Remainder)
    (emitted : Nat) (site site' : Site) :
    SameStep (stream.advance reader remainder emitted site)
      (stream.advance reader remainder emitted site') := by
  rw [advance, advance]
  split
  · exact stream.sameStep_fail reader emitted _ site site'
  · exact ⟨rfl, rfl⟩
  · exact ⟨rfl, rfl⟩

/-- A stream begins in the same way at sites that agree. -/
theorem sameStep_begin (h : site.Agrees site') (stream : Stream) :
    SameStep (stream.begin site) (stream.begin site') := by
  rw [begin, begin, h.registry_eq]
  cases site.registry.pick stream.readerName with
  | error fault => exact ⟨rfl, rfl⟩
  | ok name =>
    have hagree := ((Reader.agrees_make (Registry.kindOf name) stream.handle site).symm.trans
      h).trans (Reader.agrees_make (Registry.kindOf name) stream.handle site')
    have hmake := Reader.make_eq h (Registry.kindOf name) stream.handle
    simp only
    cases hmade : Reader.make (Registry.kindOf name) stream.handle site with
    | mk reader between =>
      cases hmade' : Reader.make (Registry.kindOf name) stream.handle site' with
      | mk reader' between' =>
        rw [hmade, hmade'] at hagree hmake
        obtain rfl : reader' = reader := hmake
        have hacquire := reader'.acquire_eq hagree
        simp only
        cases hacquired : reader'.acquire between with
        | mk opened last =>
          cases hacquired' : reader'.acquire between' with
          | mk opened' last' =>
            rw [hacquired, hacquired'] at hacquire
            obtain rfl : opened' = opened := hacquire
            cases opened' with
            | error fault => exact stream.sameStep_fail reader' 0 fault last last'
            | ok opened =>
              simp only
              cases opened.1.feed stream.plan.names with
              | error fault => exact stream.sameStep_fail opened.1 0 fault last last'
              | ok feed => exact stream.sameStep_advance opened.1 (.ofFeed feed) 0 last last'

/-- A request of a stream gives the same at sites that agree. -/
theorem sameStep_next (h : site.Agrees site') (stream : Stream) :
    SameStep (stream.next site) (stream.next site') := by
  rw [next, next]
  split
  · exact ⟨rfl, rfl⟩
  · exact stream.sameStep_advance _ _ _ site site'
  · exact stream.sameStep_begin h

end Stream

end OrcRows
