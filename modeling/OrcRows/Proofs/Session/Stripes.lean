import OrcRows.Proofs.Session.SamePlace
import OrcRows.Proofs.Table.SameElements
import OrcRows.Proofs.Table.Stripes

/-!
# The rows of all stripes

The items of a table that holds elements in every column are rows only, unless a projection repeats
a name: then every stripe with rows is refused. Counted over all stripes, a row shows the elements of
the columns at its number, so that the items of two tables that hold the same give the same, one by
one.
-/

namespace OrcRows

/-- All stripes of a table can be read, and every column has elements. -/
structure Table.IsWhole (table : Table) : Prop where
  /-- All stripes can be read. -/
  readable : ∀ stripe ∈ table.stripes, ∃ arrays, stripe = .ok arrays
  /-- Every stripe has an array for every column, all of one length. -/
  rectangular : table.IsRectangular
  /-- Every column has elements. -/
  whole : ∀ (place : Nat) (field : String × ColumnType), table.fields[place]? = some field →
    ∃ elements, table.elements? place = some elements

/-- An item is a row that shows the elements at a place of a table, in the columns of a plan. -/
def ReadPlan.ItemShows (plan : ReadPlan) (table : Table) (place : Nat) (item : FeedItem) : Prop :=
  ∃ batch index, item = .row batch index ∧ batch.columns.length = plan.columns.length ∧
    ∀ (position : Nat) (column : PlanColumn), plan.columns[position]? = some column →
      ∃ vector type spot elements element,
        table.found? plan.names column.name = some (type, spot) ∧
        batch.columns[position]? = some (some vector) ∧ table.elements? spot = some elements ∧
        elements[place]? = some element ∧ vector.Shows type index element

namespace Table

variable {table : Table} {plan : ReadPlan}

/-- A projection that keeps a column finds a column under every name. -/
theorem exists_found? {names : List String} (h : table.kept names ≠ []) (name : String) :
    ∃ type place, table.found? names name = some (type, place) := by
  obtain ⟨last, hlast⟩ := List.getLast?_isSome.mpr h |> Option.isSome_iff_exists.mp
  rw [found?, hlast]
  split
  · exact ⟨_, _, rfl⟩
  · exact ⟨_, _, rfl⟩

/-- Stripes that can be read are served whatever their place. -/
theorem feed_eq_map (readable : ∀ stripe ∈ table.stripes, ∃ arrays, stripe = .ok arrays)
    (uri : String) (names : List String) :
    table.feed uri names = table.stripes.map (table.serveStripe uri names 0) := by
  rw [feed]
  apply List.ext_getElem (by simp)
  intro place inside inside'
  obtain ⟨arrays, harrays⟩ := readable _ (List.getElem_mem (by simpa using inside))
  rw [List.getElem_mapIdx, List.getElem_map, harrays]
  rfl

/-- Without a kept column, no stripe that can be read serves rows. -/
theorem feed_of_kept_eq_nil {names : List String} (whole : table.IsWhole)
    (none_kept : table.kept names = []) (uri : String) :
    (table.feed uri names).flatMap plan.itemsOf = [] := by
  rw [feed_eq_map whole.readable, List.flatMap_map, List.flatMap_eq_nil_iff]
  intro stripe member
  obtain ⟨arrays, rfl⟩ := whole.readable stripe member
  have hempty : (table.stripeBatch names arrays).rows = 0 := by
    rw [RecordBatch.rows, columns_stripeBatch (whole.rectangular.complete arrays member), none_kept]
    rfl
  rw [serveStripe, if_pos hempty]
  rfl

/-- The arrays of a stripe of a whole table have elements, and can be laid out. -/
theorem IsWhole.exists_part (whole : table.IsWhole) {arrays : List ColumnData}
    (member : .ok arrays ∈ table.stripes) {place : Nat} {field : String × ColumnType}
    (hfield : table.fields[place]? = some field) :
    ∃ array part vector, arrays[place]? = some array ∧
      stripeElements? field.2 place (.ok arrays) = some part ∧
      array.elements? field.2 = some part ∧ ColumnVector.ofColumn field.2 array = .ok vector := by
  obtain ⟨elements, helements⟩ := whole.whole place field hfield
  obtain ⟨known, hknown, parts, _⟩ := elements?_eq_some helements
  cases hfield.symm.trans hknown
  obtain ⟨part, hpart⟩ := parts _ member
  obtain ⟨array, harray, found⟩ := exists_array_of_stripeElements? hpart
  obtain ⟨⟨vector, laid⟩, _⟩ := ColumnData.exists_ofColumn_of_elements? field.2 found
  exact ⟨array, part, vector, harray, hpart, found, laid⟩

/-- A stripe with rows is refused to a projection that repeats a name. -/
theorem IsWhole.itemsOf_of_repeats (whole : table.IsWhole)
    (repeated : table.repeats plan.names = true) (uri : String) {place : Nat}
    {field : String × ColumnType} (hfield : table.fields[place]? = some field) :
    ∀ stripe ∈ table.stripes, plan.itemsOf (table.serveStripe uri plan.names 0 stripe) =
      if (stripeElements? field.2 place stripe).getD [] = [] then []
      else [.fault (.broken .missingKey)] := by
  intro stripe member
  obtain ⟨arrays, rfl⟩ := whole.readable stripe member
  obtain ⟨rows, even⟩ := whole.rectangular.exists_rows member
  obtain ⟨array, part, _, harray, hpart, found, _⟩ := whole.exists_part member hfield
  have hlength : part.length = rows :=
    (ColumnData.exists_ofColumn_of_elements? field.2 found).2.trans
      (even array (List.mem_of_getElem? harray))
  have hrows : (table.stripeBatch plan.names arrays).rows = part.length := by
    rw [rows_stripeBatch (whole.rectangular.complete arrays member) even, hlength,
      if_neg (by simpa using kept_ne_nil_of_repeats repeated)]
  rw [serveStripe, hrows, if_pos repeated, hpart, Option.getD_some]
  by_cases empty : part = []
  · rw [if_pos (List.length_eq_zero_iff.mpr empty), if_pos empty]
    rfl
  · rw [if_neg (mt List.length_eq_zero_iff.mp empty), if_neg empty]
    rfl

/-- The items of a whole table for a projection that repeats a name are refusals; there are some if
its columns have elements. -/
theorem IsWhole.items_of_repeats (whole : table.IsWhole)
    (repeated : table.repeats plan.names = true) (uri : String) {place : Nat}
    {elements : List Element} (h : table.elements? place = some elements) :
    (elements = [] ↔ (table.feed uri plan.names).flatMap plan.itemsOf = []) ∧
      ∀ item ∈ (table.feed uri plan.names).flatMap plan.itemsOf,
        item = .fault (.broken .missingKey) := by
  obtain ⟨field, hfield, _, hall⟩ := elements?_eq_some h
  have hitems := whole.itemsOf_of_repeats repeated uri hfield
  rw [feed_eq_map whole.readable, List.flatMap_map, hall]
  constructor
  · rw [List.flatMap_eq_nil_iff, List.flatMap_eq_nil_iff]
    refine forall₂_congr fun stripe member => ?_
    rw [hitems stripe member]
    split
    case isTrue none => exact iff_of_true none rfl
    case isFalse some => exact iff_of_false some (List.cons_ne_nil _ _)
  · intro item inside
    obtain ⟨stripe, member, inside⟩ := List.mem_flatMap.mp inside
    rw [hitems stripe member] at inside
    split at inside
    · exact absurd inside List.not_mem_nil
    · exact List.mem_singleton.mp inside

/-- The items of a stripe of a whole table are its rows. -/
theorem IsWhole.itemsOf_serveStripe (whole : table.IsWhole)
    (single : table.repeats plan.names = false) (some_kept : table.kept plan.names ≠ [])
    (uri : String) {arrays : List ColumnData} (member : .ok arrays ∈ table.stripes) {rows : Nat}
    (even : ∀ array ∈ arrays, array.length = rows) :
    ∃ vectors, plan.names.mapM (table.stripeBatch plan.names arrays).vector = .ok vectors ∧
      plan.itemsOf (table.serveStripe uri plan.names 0 (.ok arrays)) =
        (List.range' 0 rows).map (.row ⟨rows, vectors.map some⟩) := by
  have complete := whole.rectangular.complete arrays member
  obtain ⟨vectors, hvectors⟩ : ∃ vectors,
      plan.names.mapM (table.stripeBatch plan.names arrays).vector = .ok vectors := by
    refine Outcome.exists_mapM_eq_ok fun name _ => ?_
    obtain ⟨type, place, found⟩ := exists_found? some_kept name
    obtain ⟨other, hfield⟩ := getElem?_of_found? found
    obtain ⟨array, _, vector, harray, _, _, laid⟩ := whole.exists_part member hfield
    refine ⟨vector, ?_⟩
    rw [vector_stripeBatch complete found, List.getElem!_of_getElem? harray]
    exact laid
  have hrows : (table.stripeBatch plan.names arrays).rows = rows := by
    rw [rows_stripeBatch complete even, if_neg (by simpa using some_kept)]
  refine ⟨vectors, hvectors, ?_⟩
  rw [serveStripe, hrows, single]
  by_cases empty : rows = 0
  · rw [if_pos empty, empty]
    rfl
  · have width : (vectors.map some).length = plan.columns.length := by
      rw [List.length_map, Outcome.length_of_mapM_eq_ok hvectors, ReadPlan.names, List.length_map]
    rw [if_neg empty, if_neg Bool.false_ne_true, RecordBatch.toBatch, hvectors, hrows]
    show plan.itemsOf (.ok (some ⟨rows, vectors.map some⟩)) = _
    rw [ReadPlan.itemsOf, if_pos width]

/-- A column has as many elements in a stripe of a whole table as the stripe has rows. -/
theorem IsWhole.length_part (whole : table.IsWhole) (single : table.repeats plan.names = false)
    (some_kept : table.kept plan.names ≠ []) (uri : String) {place : Nat} {field : String × ColumnType}
    (hfield : table.fields[place]? = some field) :
    ∀ stripe ∈ table.stripes, ((stripeElements? field.2 place stripe).getD []).length =
      (plan.itemsOf (table.serveStripe uri plan.names 0 stripe)).length := by
  intro stripe member
  obtain ⟨arrays, rfl⟩ := whole.readable stripe member
  obtain ⟨rows, even⟩ := whole.rectangular.exists_rows member
  obtain ⟨vectors, _, hitems⟩ := whole.itemsOf_serveStripe single some_kept uri member even
  obtain ⟨array, part, _, harray, hpart, found, _⟩ := whole.exists_part member hfield
  have hlength := (ColumnData.exists_ofColumn_of_elements? field.2 found).2
  rw [hpart, Option.getD_some, hlength, even array (List.mem_of_getElem? harray), hitems,
    List.length_map, List.length_range']

/-- A whole table has as many items as its columns have elements. -/
theorem IsWhole.length_items (whole : table.IsWhole) (single : table.repeats plan.names = false)
    (some_kept : table.kept plan.names ≠ []) (uri : String) {place : Nat} {elements : List Element}
    (h : table.elements? place = some elements) :
    ((table.feed uri plan.names).flatMap plan.itemsOf).length = elements.length := by
  obtain ⟨field, hfield, _, hall⟩ := elements?_eq_some h
  rw [feed_eq_map whole.readable, List.flatMap_map, hall]
  exact (length_flatMap_congr (whole.length_part single some_kept uri hfield)).symm

/-- Every item of a whole table is a row that shows the elements at its number. -/
theorem IsWhole.itemShows (whole : table.IsWhole) (single : table.repeats plan.names = false)
    (some_kept : table.kept plan.names ≠ []) (uri : String) {place : Nat} {item : FeedItem}
    (h : ((table.feed uri plan.names).flatMap plan.itemsOf)[place]? = some item) :
    plan.ItemShows table place item := by
  rw [feed_eq_map whole.readable, List.flatMap_map] at h
  obtain ⟨stripe, member, inner, hitem, others⟩ := exists_of_getElem?_flatMap h
  obtain ⟨arrays, rfl⟩ := whole.readable stripe member
  obtain ⟨rows, even⟩ := whole.rectangular.exists_rows member
  obtain ⟨vectors, hvectors, hitems⟩ := whole.itemsOf_serveStripe single some_kept uri member even
  have complete := whole.rectangular.complete arrays member
  rw [hitems, List.getElem?_map] at hitem
  obtain ⟨index, hindex, rfl⟩ := Option.map_eq_some_iff.mp hitem
  obtain ⟨inside, hsame⟩ := List.getElem?_eq_some_iff.mp hindex
  rw [List.getElem_range', Nat.zero_add, Nat.one_mul] at hsame
  rw [List.length_range'] at inside
  subst hsame
  refine ⟨_, _, rfl, ?_, fun position column hcolumn => ?_⟩
  · rw [List.length_map, Outcome.length_of_mapM_eq_ok hvectors, ReadPlan.names, List.length_map]
  · have hname : plan.names[position]? = some column.name := by
      rw [ReadPlan.names, List.getElem?_map, hcolumn]
      rfl
    obtain ⟨vector, hvector, hlaid⟩ := Outcome.getElem?_of_mapM_eq_ok hvectors hname
    obtain ⟨type, spot, found⟩ := exists_found? some_kept column.name
    obtain ⟨other, hfield⟩ := getElem?_of_found? found
    obtain ⟨elements, helements⟩ := whole.whole spot _ hfield
    obtain ⟨field, hfield', _, hall⟩ := elements?_eq_some helements
    cases hfield.symm.trans hfield'
    obtain ⟨array, part, _, harray, hpart, hpart', _⟩ := whole.exists_part member hfield
    have hlength := (ColumnData.exists_ofColumn_of_elements? type hpart').2
    have within : inner < part.length := by
      rwa [hlength, even array (List.mem_of_getElem? harray)]
    refine ⟨vector, type, spot, elements, part[inner], found, ?_, helements, ?_, array, part, ?_,
      hpart', List.getElem?_eq_getElem within⟩
    · rw [List.getElem?_map, hvector]
      rfl
    · rw [hall, others _ (whole.length_part single some_kept uri hfield), hpart]
      exact List.getElem?_eq_getElem within
    · rw [vector_stripeBatch complete found, List.getElem!_of_getElem? harray] at hlaid
      exact hlaid

end Table

end OrcRows
