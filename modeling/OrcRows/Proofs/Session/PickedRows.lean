import OrcRows.Proofs.Picked
import OrcRows.Proofs.Session.Planning
import OrcRows.Proofs.Table.Places

/-!
# Rows of some columns

Of vectors that are picked from all vectors a plan of the picked columns makes rows that are
restricted to these columns, with the same partition values behind. A table that serves all of its
columns serves some of them by the same vectors, if its stripes are rectangular.
-/

namespace OrcRows

section Rows

variable {places : List Nat}

/-- A batch of the vectors at some places. -/
def Batch.picked (places : List Nat) (batch : Batch) : Batch :=
  ⟨batch.size, OrcRows.picked places batch.columns⟩

/-- The cells of a row at some places, followed by what stands behind the columns. -/
def Value.restrict (places : List Nat) (width : Nat) : Value → Value
  | .row fields tableId => .row (OrcRows.picked places fields ++ fields.drop width) tableId
  | other => other

/-- The plan of the columns at some places. -/
def ReadPlan.picked (places : List Nat) (plan : ReadPlan) : ReadPlan :=
  { plan with columns := OrcRows.picked places plan.columns }

/-- A row of picked columns is a row of all columns, restricted. -/
theorem ReadPlan.row_picked {plan : ReadPlan} {batch : Batch} {index emitted : Nat} {row : Value}
    (h : plan.row batch index emitted = .ok row)
    (width : batch.columns.length = plan.columns.length)
    (inside : ∀ place ∈ places, place < plan.columns.length) :
    (plan.picked places).row (batch.picked places) index emitted =
      .ok (row.restrict places plan.columns.length) := by
  obtain ⟨cells, hcells, h⟩ := Outcome.bind_eq_ok h
  injection h with made
  have hlength : cells.length = plan.columns.length := by
    rw [Outcome.length_of_mapM_eq_ok hcells, List.length_zip, width, Nat.min_self]
  have inside' : ∀ place ∈ places, place < batch.columns.length :=
    fun place member => width ▸ inside place member
  have hpaired : ∀ place ∈ places, place < (plan.columns.zip batch.columns).length := by
    intro place member
    rw [List.length_zip, width, Nat.min_self]
    exact inside place member
  have hpicked : (plan.picked places).cells (batch.picked places) index emitted =
      .ok (OrcRows.picked places cells) := by
    have hzip := picked_zip inside inside'
    rw [ReadPlan.cells, picked, Batch.picked, ← hzip]
    exact mapM_picked hcells hpaired
  have hcells' : ∀ place ∈ places, place < cells.length :=
    fun place member => hlength ▸ inside place member
  rw [ReadPlan.row, hpicked, ← made, Value.restrict, picked_append hcells', ← hlength,
    List.drop_left]
  rfl

/-- An item of the vectors at some places. -/
def FeedItem.picked (places : List Nat) : FeedItem → FeedItem
  | .row batch index => .row (batch.picked places) index
  | .fault cause => .fault cause

/-- What is served of the vectors at some places. -/
def pickedServed (places : List Nat) (served : Outcome (Option Batch)) : Outcome (Option Batch) :=
  served.map (Option.map (Batch.picked places))

variable {plan : ReadPlan}

/-- The items of picked vectors are the picked items, if none of them is a fault. -/
theorem ReadPlan.itemsOf_picked {served : Outcome (Option Batch)}
    (rows : ∀ fault, .fault fault ∉ plan.itemsOf served)
    (inside : ∀ place ∈ places, place < plan.columns.length) :
    (plan.picked places).itemsOf (pickedServed places served) =
      (plan.itemsOf served).map (FeedItem.picked places) := by
  cases served with
  | error fault => exact absurd (List.mem_singleton_self _) (rows fault)
  | ok given =>
    cases given with
    | none => rfl
    | some batch =>
      by_cases width : batch.columns.length = plan.columns.length
      · have inside' : ∀ place ∈ places, place < batch.columns.length :=
          fun place member => width ▸ inside place member
        have width' : (batch.picked places).columns.length =
            (plan.picked places).columns.length := by
          rw [Batch.picked, ReadPlan.picked, length_picked inside, length_picked inside']
        have hitems : plan.itemsOf (.ok (some batch)) =
            (List.range' 0 batch.size).map (.row batch) := by
          rw [itemsOf, if_pos width]
        have hitems' : (plan.picked places).itemsOf (.ok (some (batch.picked places))) =
            (List.range' 0 batch.size).map (.row (batch.picked places)) := by
          rw [itemsOf, if_pos width']
          rfl
        rw [hitems, List.map_map]
        exact hitems'
      · exfalso
        have hitems : plan.itemsOf (.ok (some batch)) =
            [.fault (.report .illegalArgument "batch column count does not match schema"
              [("path", .text plan.uri), ("columns", .int batch.columns.length),
               ("expected", .int plan.columns.length)])] := by
          rw [itemsOf, if_neg width]
        exact rows _ (hitems ▸ List.mem_singleton_self _)

/-- A picked item that is a row of the plan gives the restricted row. -/
theorem ReadPlan.resolve_picked {served : Outcome (Option Batch)} {item : FeedItem}
    (member : item ∈ plan.itemsOf served) (inside : ∀ place ∈ places, place < plan.columns.length)
    {emitted : Nat} {row : Value} (h : plan.resolve emitted item = .ok row) :
    (plan.picked places).resolve emitted (item.picked places) =
      .ok (row.restrict places plan.columns.length) := by
  cases item with
  | fault fault => cases h
  | row batch index =>
    have hraw : plan.row batch index emitted = .ok row := by
      rw [resolve, raw] at h
      cases given : plan.row batch index emitted with
      | ok value =>
        rw [given] at h
        exact h
      | error fault =>
        rw [given] at h
        cases h
    have hrow := row_picked hraw (eq_of_row_mem_itemsOf member).2 inside
    rw [FeedItem.picked, resolve, raw, hrow]
    rfl

/-- Outcomes that are all rows come from items that are all rows. -/
theorem ReadPlan.fault_not_mem_items {items : List FeedItem} {rows : List Value}
    (h : items.mapIdx plan.resolve = rows.map .ok) (fault : Fault) : .fault fault ∉ items := by
  intro member
  obtain ⟨place, hplace⟩ := List.mem_iff_getElem?.mp member
  have hresolved : (items.mapIdx plan.resolve)[place]? =
      some (.error (fault.addContext plan.pathFact)) := by
    rw [List.getElem?_mapIdx, hplace]
    rfl
  rw [h, List.getElem?_map] at hresolved
  cases hrow : rows[place]? with
  | none =>
    rw [hrow] at hresolved
    cases hresolved
  | some row =>
    rw [hrow] at hresolved
    cases hresolved

/-- The picked items of what is served give the restricted rows. -/
theorem ReadPlan.mapIdx_resolve_picked {feed : Feed} {rows : List Value}
    (h : (feed.flatMap plan.itemsOf).mapIdx plan.resolve = rows.map .ok)
    (inside : ∀ place ∈ places, place < plan.columns.length) :
    ((feed.map (pickedServed places)).flatMap (plan.picked places).itemsOf).mapIdx
        (plan.picked places).resolve =
      (rows.map (Value.restrict places plan.columns.length)).map .ok := by
  have hitems : (feed.map (pickedServed places)).flatMap (plan.picked places).itemsOf =
      (feed.flatMap plan.itemsOf).map (FeedItem.picked places) := by
    rw [List.flatMap_map, List.map_flatMap]
    apply List.flatMap_congr
    intro served member
    refine itemsOf_picked (fun fault inner => ?_) inside
    exact fault_not_mem_items h fault (List.mem_flatMap.mpr ⟨served, member, inner⟩)
  rw [hitems]
  apply List.ext_getElem?
  intro place
  have hplace := congrArg (·[place]?) h
  simp only [List.getElem?_mapIdx, List.getElem?_map] at hplace ⊢
  cases hitem : (feed.flatMap plan.itemsOf)[place]? with
  | none =>
    rw [hitem] at hplace
    cases hrow : rows[place]? with
    | none => rfl
    | some row =>
      rw [hrow] at hplace
      cases hplace
  | some item =>
    rw [hitem] at hplace
    cases hrow : rows[place]? with
    | none =>
      rw [hrow] at hplace
      cases hplace
    | some row =>
      rw [hrow] at hplace
      obtain ⟨served, _, member⟩ := List.mem_flatMap.mp (List.mem_of_getElem? hitem)
      have hresolved : plan.resolve place item = .ok row := Option.some_inj.mp hplace
      exact congrArg some (resolve_picked member inside hresolved)

end Rows

section Tables

variable {table : Table} {places : List Nat}

/-- What a stripe serves to some columns is picked from what it serves to all of them, if it can
serve them. -/
theorem Table.serveStripe_picked (distinct : (table.fields.map (·.1)).Nodup)
    (rectangular : table.IsRectangular) (inside : ∀ place ∈ places, place < table.fields.length)
    (some_places : places ≠ []) (uri : String) (place : Nat)
    {stripe : Except Breakdown (List ColumnData)} (known : stripe ∈ table.stripes)
    {served : Option Batch}
    (h : table.serveStripe uri (table.fields.map (·.1)) place stripe = .ok served) :
    table.serveStripe uri (picked places (table.fields.map (·.1))) place stripe =
      pickedServed places (.ok served) := by
  cases stripe with
  | error cause =>
    exfalso
    rw [serveStripe, readerFault] at h
    split at h <;> cases h
  | ok arrays =>
    have hlength := rectangular.complete arrays known
    obtain ⟨rows, even⟩ := rectangular.exists_rows known
    have inside' : ∀ place ∈ places, place < (table.fields.map (·.1)).length := by
      simpa using inside
    -- every name of the table is found at its place, in both projections
    have hvector : ∀ name ∈ picked places (table.fields.map (·.1)),
        (table.stripeBatch (picked places (table.fields.map (·.1))) arrays).vector name =
          (table.stripeBatch (table.fields.map (·.1)) arrays).vector name := by
      intro name asked
      have asked' := picked_subset _ _ asked
      obtain ⟨field, member, rfl⟩ := List.mem_map.mp asked'
      obtain ⟨position, hposition⟩ := List.mem_iff_getElem?.mp member
      rw [vector_stripeBatch hlength (found?_eq_some distinct hposition asked),
        vector_stripeBatch hlength (found?_eq_some distinct hposition asked')]
    have hkept : ∀ names : List String, names ⊆ table.fields.map (·.1) → names ≠ [] →
        (table.stripeBatch names arrays).rows = rows := by
      intro names hsubset hne
      obtain ⟨name, asked⟩ := List.exists_mem_of_ne_nil names hne
      rw [rows_stripeBatch hlength even, if_neg]
      simpa using kept_ne_nil (hsubset asked) asked
    have hne : picked places (table.fields.map (·.1)) ≠ [] := by
      rw [← List.length_pos_iff, length_picked inside']
      exact List.length_pos_iff.mpr some_places
    have hrows := hkept _ (picked_subset _ _) hne
    have hrows' := hkept _ (List.Subset.refl _)
      (List.ne_nil_of_mem (picked_subset _ _ (List.exists_mem_of_ne_nil _ hne).choose_spec))
    rw [serveStripe, hrows', repeats_of_distinct distinct] at h
    rw [serveStripe, hrows, repeats_of_distinct distinct]
    simp only [Bool.false_eq_true, if_false] at h ⊢
    split at h
    case isTrue empty =>
      injection h with same
      rw [if_pos empty, ← same]
      rfl
    case isFalse filled =>
      rw [if_neg filled]
      cases hvectors : (table.fields.map (·.1)).mapM
          (table.stripeBatch (table.fields.map (·.1)) arrays).vector with
      | error fault =>
        rw [RecordBatch.toBatch, hvectors] at h
        cases h
      | ok vectors =>
        rw [RecordBatch.toBatch, hvectors] at h
        injection h with same
        have hpicked := mapM_picked hvectors inside'
        have hbatch : Batch.picked places ⟨rows, vectors.map some⟩ =
            ⟨rows, (picked places vectors).map some⟩ := by
          rw [Batch.picked, picked_map]
        rw [RecordBatch.toBatch, Outcome.mapM_congr hvector, hpicked, ← same, hrows, hrows']
        exact (congrArg (fun batch => (.ok (some batch) : Outcome (Option Batch))) hbatch).symm

/-- What a table serves to some columns is picked from what it serves to all of them, if it can
serve them. -/
theorem Table.feed_picked (distinct : (table.fields.map (·.1)).Nodup)
    (rectangular : table.IsRectangular) (inside : ∀ place ∈ places, place < table.fields.length)
    (some_places : places ≠ []) (uri : String)
    (served : ∀ fault, .error fault ∉ table.feed uri (table.fields.map (·.1))) :
    table.feed uri (picked places (table.fields.map (·.1))) =
      (table.feed uri (table.fields.map (·.1))).map (pickedServed places) := by
  rw [feed, feed]
  apply List.ext_getElem (by simp)
  intro place inner inner'
  have within : place < table.stripes.length := by simpa using inner
  have member : table.stripes[place] ∈ table.stripes := List.getElem_mem within
  rw [List.getElem_map, List.getElem_mapIdx, List.getElem_mapIdx]
  cases given : table.serveStripe uri (table.fields.map (·.1)) place table.stripes[place] with
  | error fault =>
    exact absurd (List.mem_mapIdx.mpr ⟨place, within, given⟩) (served fault)
  | ok batch =>
    rw [serveStripe_picked distinct rectangular inside some_places uri place member given]

end Tables

end OrcRows
