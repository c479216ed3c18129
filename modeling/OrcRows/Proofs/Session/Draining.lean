import OrcRows.Proofs.Session.Stepwise

/-!
# All rows of a stream

Handing the rows of a stream to a sink takes a number of requests that is fixed beforehand. There
are never more rows than in the batches of the source, so the requests do not run out: the sink is
handed all that is left.
-/

namespace OrcRows.Stream

/-- The number of rows before the first fault or the end. -/
def leadingRows : List (Outcome Value) → Nat
  | .ok _ :: rest => leadingRows rest + 1
  | _ => 0

/-- A sink is handed what is left of a stream, if requests do not run out before. -/
theorem pour_eq_consume {State : Type} (sink : State → Value → Outcome State) (limit : Nat)
    (state : State) (taken : Nat) (stream : Stream) (site : Site)
    (h : leadingRows (stream.expected site) < limit) :
    ((stream.pour sink limit state taken site).state,
        (stream.pour sink limit state taken site).outcome) =
      consume sink state taken (stream.expected site) := by
  induction limit generalizing state taken stream site with
  | zero => exact absurd h (Nat.not_lt_zero _)
  | succ limit ih =>
    have hstep := gives_next stream site
    rw [pour]
    cases hleft : stream.expected site with
    | nil =>
      rw [hleft] at hstep
      simp only [hstep.1]
      rfl
    | cons first rest =>
      rw [hleft] at hstep h
      cases first with
      | error fault =>
        simp only [hstep.1]
        rfl
      | ok row =>
        simp only [hstep.1]
        rw [consume]
        cases hsink : sink state row with
        | error fault => rfl
        | ok next =>
          have hrest := hstep.2 (stream.next site).site
          have hshort : leadingRows rest < limit := by
            rw [leadingRows] at h
            omega
          have := ih next (taken + 1) (stream.next site).stream (stream.next site).site
            (hrest ▸ hshort)
          rw [hrest] at this
          exact this

/-- The rows among items. -/
def rowItems (items : List FeedItem) : Nat :=
  (items.filter fun item => match item with
    | .row _ _ => true
    | .fault _ => false).length

/-- There are no more rows before the first fault than there are rows among the items. -/
theorem leadingRows_le (plan : ReadPlan) (items : List FeedItem) (emitted : Nat) :
    leadingRows (items.mapIdx fun place item => plan.resolve (emitted + place) item) ≤
      rowItems items := by
  induction items generalizing emitted with
  | nil => exact Nat.le_refl 0
  | cons item rest ih =>
    have hrest := ih (emitted + 1)
    have hshift : (fun place item => plan.resolve (emitted + (place + 1)) item) =
        fun place item => plan.resolve (emitted + 1 + place) item := by
      funext place item
      rw [Nat.add_right_comm, Nat.add_assoc]
    rw [List.mapIdx_cons, hshift]
    cases item with
    | fault fault => exact Nat.zero_le _
    | row batch index =>
      have hcount : rowItems (.row batch index :: rest) = rowItems rest + 1 := rfl
      rw [hcount]
      cases plan.resolve (emitted + 0) (.row batch index) with
      | error fault => exact Nat.zero_le _
      | ok row => exact Nat.succ_le_succ hrest

/-- There are no more rows among the items of a feed than there are in its batches. -/
theorem rowItems_flatMap_le (plan : ReadPlan) (feed : Feed) :
    rowItems (feed.flatMap plan.itemsOf) ≤ feed.rows := by
  induction feed with
  | nil => exact Nat.le_refl 0
  | cons served rest ih =>
    have happend : ∀ front back : List FeedItem, rowItems (front ++ back) =
        rowItems front + rowItems back := by
      intro front back
      rw [rowItems, List.filter_append, List.length_append]
      rfl
    rw [List.flatMap_cons, happend]
    cases served with
    | error fault =>
      have hnone : rowItems (plan.itemsOf (.error fault)) = 0 := rfl
      have hrows : Feed.rows (.error fault :: rest) = Feed.rows rest := rfl
      omega
    | ok given =>
      cases given with
      | none =>
        have hnone : rowItems (plan.itemsOf (.ok none)) = 0 := rfl
        have hrows : Feed.rows (.ok none :: rest) = Feed.rows rest := rfl
        omega
      | some batch =>
        rw [Feed.rows]
        apply Nat.add_le_add _ ih
        rw [ReadPlan.itemsOf]
        split
        · have hlength : ((List.range' 0 batch.size).map (FeedItem.row batch)).length =
              batch.size := by
            rw [List.length_map, List.length_range']
          rw [rowItems]
          exact Nat.le_trans (List.length_filter_le _ _) (Nat.le_of_eq hlength)
        · exact Nat.zero_le _

/-- A stream that was not begun has no more rows than its bound. -/
theorem leadingRows_expected_le {stream : Stream} (h : stream.progress = .fresh) (site : Site) :
    leadingRows (stream.expected site) ≤ stream.rowBound site := by
  have hitems : ∀ items, leadingRows (items.mapIdx stream.plan.resolve) ≤ rowItems items := by
    intro items
    have := leadingRows_le stream.plan items 0
    simp only [Nat.zero_add] at this
    exact this
  rw [expected, rowBound, h]
  simp only [items]
  cases site.registry.pick stream.readerName with
  | error fault => exact Nat.zero_le _
  | ok name =>
    refine Nat.le_trans (hitems _) ?_
    simp only
    cases hserves : site.serves (Registry.kindOf name) stream.handle stream.plan.names with
    | error fault => exact Nat.zero_le _
    | ok feed =>
      refine Nat.le_trans (rowItems_flatMap_le stream.plan feed) ?_
      rw [Site.serves_eq_ok hserves]
      cases site.source <;> exact Nat.le_refl _

end OrcRows.Stream
