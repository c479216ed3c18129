import OrcRows.Proofs.Cell.Matching
import OrcRows.Proofs.Mapping.Columns
import OrcRows.Proofs.Session.Renewal
import OrcRows.Proofs.Session.Rows
import OrcRows.Proofs.Table.Parts

/-!
# The types of a read

The plan of a read gives each column the type that its declared type is given by mapping. What a
reader serves fits a plan if the vectors match the declared types of the columns. The stripes of a
table with one array for each of its distinct columns fit every plan of a read of that table.
-/

namespace OrcRows

namespace ReadPlan

/-- Each column of a plan has the type that its declared type is given. -/
def IsMapped (plan : ReadPlan) : Prop :=
  ∀ column ∈ plan.columns, ∃ asked, column.declared.unify asked = .ok column.type

/-- The vectors in what is served match the declared types of the columns of a plan. -/
def Fits (plan : ReadPlan) (feed : Feed) : Prop :=
  ∀ batch, .ok (some batch) ∈ feed → ∀ column vector,
    (column, some vector) ∈ plan.columns.zip batch.columns →
    vector.Matches LeafCells.IsKindOf column.declared

/-- A row of a batch is an item only where that batch is served, with a vector for each column. -/
theorem eq_of_row_mem_itemsOf {plan : ReadPlan} {served : Outcome (Option Batch)} {batch : Batch}
    {index : Nat} (h : .row batch index ∈ plan.itemsOf served) :
    served = .ok (some batch) ∧ batch.columns.length = plan.columns.length := by
  rw [itemsOf.eq_def] at h
  split at h
  · cases List.mem_singleton.mp h
  · cases h
  · split at h
    case isTrue width =>
      obtain ⟨_, _, same⟩ := List.mem_map.mp h
      injection same with same
      exact ⟨by rw [same], same ▸ width⟩
    case isFalse => cases List.mem_singleton.mp h

end ReadPlan

/-- What the reader of a stream serves at a site fits the plan of the stream. -/
def Stream.FitsAt (stream : Stream) (site : Site) : Prop :=
  ∀ kind feed, site.serves kind stream.handle stream.plan.names = .ok feed → stream.plan.Fits feed

section Plans

variable {session session' : Session} {site : Site} {request : ReadRequest}
  {tableId : Option String} {stream : Stream}

/-- A column of a plan is declared as the first column of its name, and stands in the schema with
its type. -/
theorem ReadPlan.IsFor.column_known {plan : ReadPlan} {native : NativeType} {columns : Schema}
    {partitions : List String × PartitionMap}
    (h : plan.IsFor session native columns partitions tableId) {column : PlanColumn}
    (hc : column ∈ plan.columns) :
    (column.name, column.type) ∈ columns.fields ∧
      native.column? column.name = some (.ok column.declared) := by
  obtain ⟨place, hplace⟩ := List.mem_iff_getElem?.mp hc
  have inside : place < columns.fields.length := by
    have hwidth : plan.columns.length = columns.fields.length := h.width_eq
    have hp := (List.getElem?_eq_some_iff.mp hplace).1
    omega
  have hfield : columns.fields[place]? = some columns.fields[place] :=
    List.getElem?_eq_getElem inside
  obtain ⟨declared, hplanned, hdeclared⟩ := h.column_eq place _ hfield
  rw [hplace, Option.some_inj] at hplanned
  subst hplanned
  exact ⟨List.getElem_mem inside, hdeclared⟩

/-- The plan of a read gives each column the type that its declared type is given. -/
theorem Session.Follows.rows_isMapped (h : session.Follows site request)
    (started : session.rows tableId = (.ok stream, session')) : stream.plan.IsMapped := by
  have follows : session'.Follows site request := by
    have hleft := (h.same_rows h tableId).left
    rwa [started] at hleft
  obtain ⟨_, _, columns, partitions, native, planned, resolves⟩ := Session.rows_eq_ok started
  have hnative := follows.native_told native resolves.native_known
  have hcolumns := follows.columns_told columns resolves.columns_known
  have hfollows : (start site request).Follows site request := follows_start (.refl site)
  have hrequest : (start site request).nativeSchema.2.request = request :=
    hfollows.nativeSchema.2.request_eq
  rw [fileSchema_of_unknown rfl hrequest, hnative, Outcome.ok_bind] at hcolumns
  cases hinferred : native.inferSchema request.target request.options.selected with
  | error fault =>
    have hstart : (start site request).request = request := rfl
    rw [hstart, hinferred] at hcolumns
    cases hcolumns
  | ok schema =>
    have hstart : (start site request).request = request := rfl
    rw [hstart, hinferred] at hcolumns
    injection hcolumns with same
    subst same
    intro column hc
    obtain ⟨hfield, hdeclared⟩ := resolves.isFor.column_known hc
    obtain ⟨declared, asked, hd, hu⟩ := NativeType.inferSchema_eq_ok hinferred hfield
    rw [hdeclared] at hd
    injection hd with same
    injection same with same
    exact ⟨asked, same ▸ hu⟩

end Plans

section Tables

variable {fields : List (String × ColumnType)}

/-- A column of a name in the declared type of a table is declared as the first column of that
name. -/
theorem NativeType.first_ofTable {native declared : NativeType} {name : String}
    (h : ofTable fields = .ok native) (hc : native.column? name = some (.ok declared)) :
    ∃ (place : Nat) (type : ColumnType), fields[place]? = some (name, type) ∧
      (∀ (earlier : Nat) (other : ColumnType), earlier < place →
        fields[earlier]? ≠ some (name, other)) ∧
      ofColumn type = .ok declared := by
  obtain ⟨natives, hnatives, hnative⟩ : ∃ natives, ofColumns fields = .ok natives ∧
      native = struct natives := by
    rw [ofTable] at h
    cases hs : ofColumns fields with
    | error fault =>
      rw [hs] at h
      cases h
    | ok natives =>
      rw [hs] at h
      injection h with same
      exact ⟨natives, rfl, same.symm⟩
  obtain ⟨hlength, hplaces⟩ := ofColumns_eq_ok hnatives
  subst hnative
  have hnames : (struct natives).fieldNames = natives.map (·.1) := rfl
  have hchildren : (struct natives).children = natives.map (·.2) := rfl
  rw [column?, hnames, hchildren] at hc
  obtain ⟨place, hplace, hchild⟩ := Option.map_eq_some_iff.mp hc
  obtain ⟨inside, hname, before⟩ := List.idxOf?_eq_some_iff.mp hplace
  rw [List.length_map] at inside
  obtain ⟨⟨found, type⟩, hfield⟩ : ∃ field, fields[place]? = some field :=
    ⟨_, List.getElem?_eq_getElem (by omega)⟩
  -- the names of the table and of its declared type agree place by place
  have hkey : ∀ {spot : Nat} {key : String} {type : ColumnType} (bound : spot < natives.length),
      fields[spot]? = some (key, type) → natives[spot].1 = key := by
    intro spot key type bound hspot
    obtain ⟨child, hat, _⟩ := hplaces spot _ hspot
    rw [(List.getElem?_eq_some_iff.mp hat).2]
  obtain ⟨child, hat, hdeclared⟩ := hplaces place _ hfield
  have hsecond : (natives.map (·.2))[place]? = some child := by rw [List.getElem?_map, hat]; rfl
  rw [hsecond] at hchild
  injection hchild with same
  obtain rfl : found = name := by
    rwa [List.getElem_map, hkey inside hfield] at hname
  refine ⟨place, type, hfield, fun earlier other less hother => ?_, same ▸ hdeclared⟩
  refine before earlier less ?_
  rw [List.getElem_map, hkey (Nat.lt_trans less inside) hother]

/-- A column of a name in the declared type of a table is declared as a column of that name. -/
theorem NativeType.column?_ofTable {native declared : NativeType} {name : String}
    (h : ofTable fields = .ok native) (hc : native.column? name = some (.ok declared)) :
    ∃ type, (name, type) ∈ fields ∧ ofColumn type = .ok declared := by
  obtain ⟨_, type, found, _, hdeclared⟩ := first_ofTable h hc
  exact ⟨type, List.mem_of_getElem? found, hdeclared⟩

/-- The only entry of a key in a list with distinct keys is found by filtering. -/
theorem filter_key_eq {α : Type} {entries : List (String × α)}
    (distinct : (entries.map (·.1)).Nodup) {name : String} {value : α}
    (member : (name, value) ∈ entries) : entries.filter (·.1 == name) = [(name, value)] := by
  induction entries with
  | nil => cases member
  | cons entry rest ih =>
    rw [List.map_cons, List.nodup_cons] at distinct
    rcases List.mem_cons.mp member with same | later
    · have others : rest.filter (·.1 == name) = [] := by
        rw [List.filter_eq_nil_iff]
        intro other inside key
        have hkey : other.1 = entry.1 := by rw [← same]; exact beq_iff_eq.mp key
        exact distinct.1 (hkey ▸ List.mem_map_of_mem inside)
      have hit : (entry.1 == name) = true := by rw [← same]; exact beq_self_eq_true name
      rw [List.filter_cons, if_pos hit, others, same]
    · have miss : ¬ (entry.1 == name) = true := by
        intro key
        have hkey : entry.1 = name := beq_iff_eq.mp key
        exact distinct.1 (hkey ▸ List.mem_map_of_mem later)
      rw [List.filter_cons, if_neg miss, ih distinct.2 later]

namespace Table

variable {table : Table}

/-- The columns of a table have distinct names, and every stripe that can be read has an array for
each of them. -/
structure IsFull (table : Table) : Prop where
  /-- No name occurs twice. -/
  distinct : (table.fields.map (·.1)).Nodup
  /-- Every stripe has as many arrays as there are columns. -/
  complete : ∀ arrays, .ok arrays ∈ table.stripes → arrays.length = table.fields.length

/-- The columns of a stripe are the fields with their arrays, filtered by name if a projection asks
for any. -/
theorem columns_stripeBatch_eq_ite (table : Table) (names : List String)
    (arrays : List ColumnData) :
    (table.stripeBatch names arrays).columns =
      if names.isEmpty then (table.fields.zip arrays).map fun pair => (pair.1.1, pair.1.2, pair.2)
      else ((table.fields.zip arrays).map fun pair => (pair.1.1, pair.1.2, pair.2)).filter
        fun column => names.contains column.1 := rfl

/-- A column that is asked for is found in a stripe under its own type. -/
theorem IsFull.column?_stripeBatch (full : table.IsFull) {names : List String}
    {arrays : List ColumnData} (stripe : .ok arrays ∈ table.stripes) {name : String}
    {type : ColumnType} (asked : name ∈ names) (known : (name, type) ∈ table.fields) :
    ∃ array, (table.stripeBatch names arrays).column? name = some (type, array) := by
  have hlength := full.complete arrays stripe
  obtain ⟨place, hplace⟩ := List.mem_iff_getElem?.mp known
  have inside : place < arrays.length := by
    have hp := (List.getElem?_eq_some_iff.mp hplace).1
    omega
  have hnames : ¬ names.isEmpty = true := by
    intro empty
    rw [List.isEmpty_iff.mp empty] at asked
    cases asked
  have hkeys : ((table.fields.zip arrays).map fun pair =>
      (pair.1.1, pair.1.2, pair.2)).map (·.1) = table.fields.map (·.1) := by
    have hzip := List.map_fst_zip hlength.ge
    rw [List.map_map]
    conv_rhs => rw [← hzip, List.map_map]
    rfl
  have hmember : (name, type, arrays[place]) ∈ (table.fields.zip arrays).map
      fun pair => (pair.1.1, pair.1.2, pair.2) := by
    have hpair : (table.fields.zip arrays)[place]? = some ((name, type), arrays[place]) :=
      List.getElem?_zip_eq_some.mpr ⟨hplace, List.getElem?_eq_getElem inside⟩
    exact List.mem_map.mpr ⟨_, List.mem_of_getElem? hpair, rfl⟩
  have hdistinct := hkeys ▸ full.distinct
  refine ⟨arrays[place], ?_⟩
  rw [RecordBatch.column?, columns_stripeBatch_eq_ite, if_neg hnames]
  have hkept : (((table.fields.zip arrays).map fun pair =>
      (pair.1.1, pair.1.2, pair.2)).filter fun column => names.contains column.1).filter (·.1 == name) =
      [(name, type, arrays[place])] := by
    apply filter_key_eq
    · exact (List.filter_sublist.map _).nodup hdistinct
    · exact List.mem_filter.mpr ⟨hmember, List.contains_iff_mem.mpr asked⟩
  simp only [hkept]

/-- A batch that a table serves has the vectors of the arrays of a stripe, under names of which no
two columns have one. -/
theorem exists_arrays_of_mem_feed {uri : String} {names : List String} {batch : Batch}
    (h : .ok (some batch) ∈ table.feed uri names) :
    table.repeats names = false ∧ ∃ arrays vectors, .ok arrays ∈ table.stripes ∧
      names.mapM (table.stripeBatch names arrays).vector = .ok vectors ∧
      batch.columns = vectors.map some := by
  rw [feed] at h
  obtain ⟨position, inside, hserved⟩ := List.mem_mapIdx.mp h
  have hstripe : table.stripes[position] ∈ table.stripes := List.getElem_mem inside
  cases hread : table.stripes[position] with
  | error cause =>
    rw [hread] at hserved
    cases hserved
  | ok arrays =>
    rw [hread] at hserved hstripe
    rw [serveStripe] at hserved
    split at hserved
    · cases hserved
    · split at hserved
      case isTrue => cases hserved
      case isFalse distinct =>
        cases hb : (table.stripeBatch names arrays).toBatch names with
        | error fault =>
          rw [hb] at hserved
          cases hserved
        | ok made =>
          rw [hb] at hserved
          injection hserved with same
          injection same with same
          obtain ⟨vectors, hvectors, hmade⟩ := Outcome.bind_eq_ok hb
          injection hmade with hcolumns
          exact ⟨Bool.eq_false_of_not_eq_true distinct, arrays, vectors, hstripe, hvectors,
            by rw [← same, ← hcolumns]⟩

/-- What a full table serves fits every plan that reads its columns as they are declared. -/
theorem IsFull.fits_feed (full : table.IsFull) {plan : ReadPlan} {native : NativeType}
    (declared : NativeType.ofTable table.fields = .ok native)
    (planned : ∀ column ∈ plan.columns, native.column? column.name = some (.ok column.declared))
    (uri : String) : plan.Fits (table.feed uri plan.names) := by
  intro batch hbatch column vector hpair
  obtain ⟨place, hplace⟩ := List.mem_iff_getElem?.mp hpair
  obtain ⟨hcolumn, hvector⟩ := List.getElem?_zip_eq_some.mp hplace
  obtain ⟨_, arrays, vectors, hstripe, hvectors, hmade⟩ := exists_arrays_of_mem_feed hbatch
  have hname : plan.names[place]? = some column.name := by
    rw [ReadPlan.names, List.getElem?_map, hcolumn]
    rfl
  obtain ⟨made, hat, hv⟩ := Outcome.getElem?_of_mapM_eq_ok hvectors hname
  obtain rfl : made = vector := by
    rw [hmade] at hvector
    simpa only [List.getElem?_map, hat, Option.map_some, Option.some_inj] using hvector
  obtain ⟨type, hknown, hdeclared⟩ :=
    NativeType.column?_ofTable declared (planned column (List.mem_of_getElem? hcolumn))
  obtain ⟨array, hfound⟩ :=
    full.column?_stripeBatch hstripe (List.mem_of_getElem? hname) hknown
  rw [RecordBatch.vector, hfound] at hv
  exact ColumnVector.matches_ofColumn type hv hdeclared

end Table

end Tables

section Sources

variable {session session' : Session} {site : Site} {request : ReadRequest}
  {tableId : Option String} {stream : Stream} {table : Table}

/-- A probe of a table finds the declared type of the table. -/
theorem Session.probe_of_table (hs : session.site.source = .table table) {kind : ReaderKind}
    {native : NativeType} (told : (session.probe kind).1 = .ok native) :
    NativeType.ofTable table.fields = .ok native := by
  cases kind with
  | script =>
    simp [probe, Reader.make, Reader.acquire, Reader.openScript, Site.countBuilt,
      Site.countAcquired, hs, Source.asScript] at told
  | table =>
    cases hread : session.site.storage.read session.request.handle with
    | error fault =>
      cases fault <;>
        simp [probe, Reader.make, Reader.acquire, Reader.openTable, Site.countBuilt, hread] at told
    | ok bytes =>
      cases hschema : Reader.tableSchema session.request.handle table with
      | error fault =>
        simp [probe, Reader.make, Reader.acquire, Reader.openTable, Site.countBuilt, hread, hs,
          Source.asTable, hschema] at told
      | ok found =>
        simp only [probe, Reader.make, Reader.acquire, Reader.openTable, Site.countBuilt, hread, hs,
          Source.asTable, hschema, Except.ok.injEq] at told
        subst told
        rw [Reader.tableSchema] at hschema
        split at hschema
        · cases hschema
        · exact hschema

/-- The declared type of a table is that of its columns. -/
theorem Session.nativeSchema_of_table (hs : session.site.source = .table table)
    (unknown : session.native = none) {native : NativeType}
    (told : session.nativeSchema.1 = .ok native) :
    NativeType.ofTable table.fields = .ok native := by
  rw [nativeSchema, unknown] at told
  simp only at told
  split at told
  · cases told
  · split at told
    · cases told
    · rename_i found after hprobe
      injection told with same
      subst same
      exact probe_of_table hs (by rw [hprobe])

/-- What a full table serves fits the plan of every read of it. -/
theorem Session.Follows.rows_fitsAt (h : session.Follows site request)
    (started : session.rows tableId = (.ok stream, session'))
    (source : site.source = .table table) (full : table.IsFull) : stream.FitsAt session'.site := by
  have follows : session'.Follows site request := by
    have hleft := (h.same_rows h tableId).left
    rwa [started] at hleft
  obtain ⟨_, _, columns, partitions, native, planned, resolves⟩ := Session.rows_eq_ok started
  have hnative := follows.native_told native resolves.native_known
  have declared : NativeType.ofTable table.fields = .ok native :=
    nativeSchema_of_table source rfl hnative
  intro kind feed hserves
  have hfeed := Site.serves_eq_ok hserves
  rw [follows.agrees.source_eq, source] at hfeed
  rw [hfeed]
  exact full.fits_feed declared (fun column hc => (resolves.isFor.column_known hc).2) _

end Sources

end OrcRows
