import OrcRows.Proofs.Table.Elements
import OrcRows.Proofs.Table.Roundtrip

/-!
# Valid columns stand for values

A valid column of an accepted type has a vector, and every row of it that lies in the calendar
stands for a value. With what is read being what the column stands for, reading is settled: it
succeeds there, with the one value that the column stands for.
-/

namespace OrcRows

namespace ColumnData

/-- A valid column has a vector. -/
theorem Valid.exists_vector {type : ColumnType} {data : ColumnData} (valid : data.Valid type) :
    ∃ vector, ColumnVector.ofColumn type data = .ok vector := by
  obtain ⟨elements, found⟩ := valid.exists_elements?
  exact (exists_ofColumn_of_elements? type found).1

/-- What belongs to a part of a row belongs to the row. -/
theorem InCalendar.of_reaches {type part : ColumnType} {data inner : ColumnData} {row place : Nat}
    (h : data.InCalendar type row)
    (hr : ∀ leaf cells position, Reaches leaf cells position part inner place →
      Reaches leaf cells position type data row) : inner.InCalendar part place :=
  ⟨fun _ _ _ reached => h.dates _ _ _ (hr _ _ _ reached),
    fun _ _ _ _ reached => h.timestamps _ _ _ _ (hr _ _ _ reached)⟩

/-- Things that are there at every place make a list. -/
theorem exists_list {α : Type} {count : Nat} {p : Nat → α → Prop}
    (h : ∀ place, place < count → ∃ x, p place x) :
    ∃ xs : List α, xs.length = count ∧ ∀ place x, xs[place]? = some x → p place x := by
  induction count with
  | zero => exact ⟨[], rfl, by simp⟩
  | succ count ih =>
    obtain ⟨xs, hlength, hxs⟩ := ih fun place hp => h place (by omega)
    obtain ⟨last, hlast⟩ := h count (by omega)
    refine ⟨xs ++ [last], by simp [hlength], ?_⟩
    intro place x hx
    rcases Nat.lt_trichotomy place count with hp | rfl | hp
    · rw [List.getElem?_append_left (by omega)] at hx
      exact hxs place x hx
    · rw [← hlength, List.getElem?_concat_length, Option.some_inj] at hx
      exact hx ▸ hlast
    · rw [List.getElem?_append_right (by omega)] at hx
      have := (List.getElem?_eq_some_iff.mp hx).1
      simp only [List.length_singleton] at this
      omega

/-- A cell of a leaf column is missing or there. -/
theorem missing_or_found {α : Type} {cells : List (Option α)} {row : Nat}
    (h : row < cells.length) :
    cells[row]? = some none ∨ ∃ stored, cells[row]? = some (some stored) := by
  rw [List.getElem?_eq_getElem h]
  cases cells[row] with
  | none => exact .inl rfl
  | some stored => exact .inr ⟨stored, rfl⟩

/-- A row with parts is missing or there. -/
theorem absent_or_present {present : List Bool} {row : Nat} (h : row < present.length) :
    present[row]? = some false ∨ present[row]? = some true := by
  rw [List.getElem?_eq_getElem h]
  cases present[row] with
  | false => exact .inl rfl
  | true => exact .inr rfl

/-- A row of cells stands for a value if each stored cell does. -/
theorem exists_denotes_of_cells {α : Type} {cells : List (Option α)} {type : ColumnType}
    {data : ColumnData} {row : Nat} (hp : data.presence = cells.map (·.isSome))
    (hr : row < cells.length)
    (h : ∀ stored, cells[row]? = some (some stored) → ∃ value, data.Denotes type row value) :
    ∃ value, data.Denotes type row value := by
  rcases missing_or_found hr with hn | ⟨stored, hs⟩
  · exact ⟨_, .missing (by rw [hp, List.getElem?_map, hn]; rfl)⟩
  · exact h stored hs

/-- A row with parts stands for a value if it does when it is there. -/
theorem exists_denotes_of_present {type : ColumnType} {data : ColumnData} {row : Nat}
    (hr : row < data.presence.length)
    (h : data.presence[row]? = some true → ∃ value, data.Denotes type row value) :
    ∃ value, data.Denotes type row value := by
  rcases absent_or_present hr with absent | there
  · exact ⟨_, .missing absent⟩
  · exact h there

/-- Every row of data that is there and lies in the calendar stands for a value. -/
def IsTotal (type : ColumnType) (data : ColumnData) : Prop :=
  ∀ row, row < data.length → data.InCalendar type row → ∃ value, data.Denotes type row value

/-- A list of elements that stand for values stands for a value. -/
theorem IsTotal.list {element : ColumnType} {present : List Bool} {bounds : List Int}
    {child : ColumnData} (slices : AreBounds bounds present.length child.length)
    (inner : child.IsTotal element) :
    (list present bounds child).IsTotal (.list element) := by
  intro row hr inYears
  refine exists_denotes_of_present hr fun there => ?_
  obtain ⟨first, count, slice, hroom⟩ := slices.2 row hr
  obtain ⟨values, rfl, hvalues⟩ := exists_list fun place (hp : place < count) =>
    inner (first + place) (by omega)
      (inYears.of_reaches fun _ _ _ => .element there slice hp)
  exact ⟨_, .list there slice hvalues⟩

/-- A map of keys and values that stand for values stands for a value. -/
theorem IsTotal.map {key value : ColumnType} {present : List Bool} {bounds : List Int}
    {keys values : ColumnData} (slices : AreBounds bounds present.length keys.length)
    (paired : values.length = keys.length) (innerKey : keys.IsTotal key)
    (innerValue : values.IsTotal value) :
    (map present bounds keys values).IsTotal (.map key value) := by
  intro row hr inYears
  refine exists_denotes_of_present hr fun there => ?_
  obtain ⟨first, count, slice, hroom⟩ := slices.2 row hr
  have hpair : ∀ place, place < count → ∃ pair : Value × Value,
      keys.Denotes key (first + place) pair.1 ∧ values.Denotes value (first + place) pair.2 := by
    intro place hp
    obtain ⟨left, hleft⟩ := innerKey (first + place) (by omega)
      (inYears.of_reaches fun _ _ _ => .key there slice hp)
    obtain ⟨right, hright⟩ := innerValue (first + place) (by omega)
      (inYears.of_reaches fun _ _ _ => .value there slice hp)
    exact ⟨(left, right), hleft, hright⟩
  obtain ⟨pairs, rfl, hpairs⟩ := exists_list hpair
  exact ⟨_, .map there slice (fun place pair hp => (hpairs place pair hp).1)
    fun place pair hp => (hpairs place pair hp).2⟩

/-- A struct of fields that stand for values stands for a value. -/
theorem IsTotal.struct {fields : List (String × ColumnType)} {present : List Bool}
    {columns : List ColumnData} (width : columns.length = fields.length)
    (rows : ∀ column ∈ columns, column.length = present.length)
    (inner : ∀ (place : Nat) (field : String × ColumnType) (column : ColumnData),
      fields[place]? = some field → columns[place]? = some column → column.IsTotal field.2) :
    (struct present columns).IsTotal (.struct fields) := by
  intro row hr inYears
  refine exists_denotes_of_present hr fun there => ?_
  have hvalue : ∀ place, place < fields.length → ∃ value, ∀ field column,
      fields[place]? = some field → columns[place]? = some column →
      column.Denotes field.2 row value := by
    intro place hp
    have hfield : fields[place]? = some fields[place] := List.getElem?_eq_getElem hp
    have hcolumn : columns[place]? = some columns[place] := List.getElem?_eq_getElem (by omega)
    have hlength := rows _ (List.mem_of_getElem? hcolumn)
    obtain ⟨value, hvalue⟩ := inner place _ _ hfield hcolumn row (hlength.symm ▸ hr)
      (inYears.of_reaches fun _ _ _ => .field there hfield hcolumn)
    refine ⟨value, fun field column hf hc => ?_⟩
    rw [hfield, Option.some_inj] at hf
    rw [hcolumn, Option.some_inj] at hc
    exact hf ▸ hc ▸ hvalue
  obtain ⟨values, hlength, hvalues⟩ := exists_list hvalue
  exact ⟨_, .struct there hlength fun place field column value hf hc hv =>
    hvalues place value hv field column hf hc⟩

/-- A union of accepted branches that stand for values stands for a value. -/
theorem IsTotal.union {dense : Bool} {branches : List (String × ColumnType)}
    {codes rowCodes : List Int} {columns : List ColumnData} {offsets : Option (List Int)}
    (width : columns.length = branches.length) (coded : codes.length = branches.length)
    (known : ∀ code ∈ rowCodes, code ∈ codes)
    (accepted : ∀ branch ∈ branches, ∃ declared, NativeType.ofColumn branch.2 = .ok declared)
    (inner : ∀ (place : Nat) (branch : String × ColumnType) (column : ColumnData),
      branches[place]? = some branch → columns[place]? = some column → column.IsTotal branch.2)
    (rows : ∀ (row place : Nat) (code : Int) (column : ColumnData), rowCodes[row]? = some code →
      codes.idxOf? code = some place → columns[place]? = some column →
      ∃ target : Nat, target < column.length ∧
        if dense then ∃ rows, offsets = some rows ∧ rows[row]? = some (target : Int)
        else target = row) :
    (union rowCodes columns offsets).IsTotal (.union dense branches codes) := by
  intro row hr inYears
  have hcode : rowCodes[row]? = some rowCodes[row] := List.getElem?_eq_getElem hr
  obtain ⟨place, hplace⟩ := Option.isSome_iff_exists.mp
    (List.isSome_idxOf?.mpr (known _ (List.mem_of_getElem? hcode)))
  have hp : place < codes.length := (List.idxOf?_eq_some_iff.mp hplace).1
  have hbranch : branches[place]? = some branches[place] := List.getElem?_eq_getElem (by omega)
  have hcolumn : columns[place]? = some columns[place] := List.getElem?_eq_getElem (by omega)
  obtain ⟨declared, hd⟩ := accepted _ (List.mem_of_getElem? hbranch)
  obtain ⟨target, hlt, addressed⟩ := rows row place _ _ hcode hplace hcolumn
  obtain ⟨value, hvalue⟩ := inner place _ _ hbranch hcolumn target hlt
    (inYears.of_reaches fun _ _ _ => .branch hcode hplace hbranch hcolumn addressed)
  exact ⟨_, .union hcode hplace hbranch hcolumn hd addressed hvalue⟩

/-- Every row of a valid column of an accepted type that lies in the calendar stands for a value. -/
theorem Valid.isTotal {type : ColumnType} {data : ColumnData} {declared : NativeType}
    (valid : data.Valid type) (accepted : NativeType.ofColumn type = .ok declared) :
    data.IsTotal type := by
  induction valid generalizing declared with
  | boolean range =>
    intro row hr _
    refine exists_denotes_of_cells rfl hr fun stored hs => ?_
    rcases range stored (List.mem_of_getElem? hs) with rfl | rfl
    · exact ⟨.bool false, .boolean hs⟩
    · exact ⟨.bool true, .boolean hs⟩
  | integer range =>
    intro row hr _
    exact exists_denotes_of_cells rfl hr fun stored hs => ⟨_, .integer hs⟩
  | single range =>
    intro row hr _
    exact exists_denotes_of_cells rfl hr fun stored hs => ⟨_, .floating hs⟩
  | double =>
    intro row hr _
    exact exists_denotes_of_cells rfl hr fun stored hs => ⟨_, .floating hs⟩
  | text range =>
    intro row hr _
    refine exists_denotes_of_cells rfl hr fun stored hs => ?_
    obtain ⟨chars, rfl⟩ := range stored (List.mem_of_getElem? hs)
    exact ⟨.text (String.ofList chars), .text (by rw [String.toList_ofList]; exact hs)⟩
  | binary =>
    intro row hr _
    exact exists_denotes_of_cells rfl hr fun stored hs => ⟨_, .binary hs⟩
  | date =>
    intro row hr inYears
    refine exists_denotes_of_cells rfl hr fun stored hs => ?_
    obtain ⟨date, rfl⟩ := inYears.dates _ _ _ .here hs
    exact ⟨_, .date hs⟩
  | timestamp =>
    intro row hr inYears
    refine exists_denotes_of_cells rfl hr fun stored hs => ?_
    obtain ⟨timestamp, floor⟩ := (inYears.timestamps _ _ _ _ .here hs).exists_isFloorOf
    exact ⟨_, .timestamp hs floor⟩
  | decimal range =>
    intro row hr _
    exact exists_denotes_of_cells rfl hr fun stored hs => ⟨_, .decimal hs⟩
  | list slices inner ih =>
    obtain ⟨native, hn, _⟩ := Outcome.bind_eq_ok accepted
    exact .list slices (ih hn)
  | map slices paired innerKey innerValue ihKey ihValue =>
    obtain ⟨keyNative, hk, accepted⟩ := Outcome.bind_eq_ok accepted
    obtain ⟨valueNative, hv, _⟩ := Outcome.bind_eq_ok accepted
    exact .map slices paired (ihKey hk) (ihValue hv)
  | struct width rows inner ih =>
    obtain ⟨natives, hn, _⟩ := Outcome.bind_eq_ok accepted
    obtain ⟨_, hnative⟩ := NativeType.ofColumns_eq_ok hn
    refine .struct width rows fun place field column hf hc => ?_
    obtain ⟨native, _, hnp⟩ := hnative place field hf
    exact ih place field column hf hc hnp
  | union width coded known inner rows ih =>
    obtain ⟨natives, hn, _⟩ := Outcome.bind_eq_ok accepted
    obtain ⟨_, hnative⟩ := NativeType.ofColumns_eq_ok hn
    refine .union width coded known ?_ (fun place branch column hb hc => ?_) rows
    · intro branch hb
      obtain ⟨place, hplace⟩ := List.mem_iff_getElem?.mp hb
      obtain ⟨native, _, hnp⟩ := hnative place branch hplace
      exact ⟨native, hnp⟩
    · obtain ⟨native, _, hnp⟩ := hnative place branch hb
      exact ih place branch column hb hc hnp

end ColumnData

/-- Laying out a valid column of an accepted type and reading it gives back the column: where dates
and timestamps lie in the calendar, every row stands for a value, the cell is that value and no
other, and it is missing exactly if the element is. -/
theorem cell_ofColumn_iff_denotes {type : ColumnType} {data : ColumnData} {declared : NativeType}
    (accepted : NativeType.ofColumn type = .ok declared) (flat : type.IsFlat)
    (valid : data.Valid type) :
    ∃ vector, ColumnVector.ofColumn type data = .ok vector ∧
      ∀ row, row < data.length → data.InCalendar type row →
        (∃ value, data.Denotes type row value) ∧
        (∀ value, vector.cell .standard declared none row = .ok value ↔
          data.Denotes type row value) ∧
        (vector.cell .standard declared none row = .ok .null ↔
          data.presence[row]? = some false) := by
  obtain ⟨vector, laid⟩ := valid.exists_vector
  refine ⟨vector, laid, fun row hr inYears => ?_⟩
  obtain ⟨value, hvalue⟩ := valid.isTotal accepted row hr inYears
  have hcell := hvalue.isReadAs flat valid declared vector accepted laid
  have hback : ∀ other, vector.cell .standard declared none row = .ok other →
      data.Denotes type row other := by
    intro other ho
    rw [hcell] at ho
    injection ho with same
    exact same ▸ hvalue
  refine ⟨⟨value, hvalue⟩, fun other => ⟨hback other, fun h => ?_⟩, fun h => ?_, fun absent => ?_⟩
  · exact h.isReadAs flat valid declared vector accepted laid
  · cases hback .null h with
    | missing absent => exact absent
  · exact ColumnVector.cell_ofColumn_missing laid absent

/-- A record of a moment, names and a count or a mark. -/
def visitType : ColumnType :=
  .struct [("at", .timestamp .nano), ("names", .list (.text false)),
    ("what", .union true [("count", .integer true 32), ("mark", .boolean)] [7, 5])]

/-- Two visits, of which the second is missing: a moment before 1970, a name and a missing one, and
a mark. -/
def visitData : ColumnData :=
  .struct [true, false] [.integers [some (-1), none],
    .list [true, false] [0, 2, 2] (.bytes [some [0xc3, 0xa9], none]),
    .union [5, 7] [.integers [some 300], .integers [some 1]] (some [0, 0])]

/-- Visits are data of their type. -/
theorem visitData_valid : visitData.Valid visitType := by
  refine .struct rfl (by simp [ColumnData.length]) ?_
  intro place field column hf hc
  rcases place with _ | _ | _ | place
  · cases hf; cases hc
    exact .timestamp
  · cases hf; cases hc
    refine .list ⟨rfl, ?_⟩ (.text ?_)
    · intro row hr
      rcases row with _ | _ | row
      · exact ⟨0, 2, ⟨rfl, rfl⟩, by decide⟩
      · exact ⟨2, 0, ⟨rfl, rfl⟩, by decide⟩
      · exact absurd hr (by simp)
    · intro value hv
      rcases List.mem_cons.mp hv with same | hv
      · cases same
        exact ⟨['é'], by decide⟩
      · simp at hv
  · cases hf; cases hc
    refine .union rfl rfl (by decide) ?_ ?_
    · intro place branch column hf hc
      rcases place with _ | _ | place
      · cases hf; cases hc
        exact .integer (by simp [FitsBits])
      · cases hf; cases hc
        exact .boolean (by simp)
      · cases hf
    · intro row place code column hcode hplace hcolumn
      rcases row with _ | _ | row
      · cases hcode; cases hplace; cases hcolumn
        exact ⟨0, by decide, _, rfl, rfl⟩
      · cases hcode; cases hplace; cases hcolumn
        exact ⟨0, by decide, _, rfl, rfl⟩
      · cases hcode
  · cases hf

/-- The first visit lies in the calendar. -/
theorem visitData_inCalendar : visitData.InCalendar visitType 0 := by
  constructor
  · intro cells place day reached found
    unfold visitType visitData at reached
    cases reached with
    | @field _ _ _ _ position _ _ there fieldType fieldData rest =>
      rcases position with _ | _ | _ | position
      · cases fieldType; cases fieldData; cases rest
      · cases fieldType; cases fieldData
        cases rest with
        | element there slice inside rest => cases rest
      · cases fieldType; cases fieldData
        cases rest with
        | branch coded named branchType branchData addressed rest =>
          cases coded; cases named; cases branchType; cases branchData; cases rest
      · cases fieldType
  · intro unit cells place count reached found
    unfold visitType visitData at reached
    cases reached with
    | @field _ _ _ _ position _ _ there fieldType fieldData rest =>
      rcases position with _ | _ | _ | position
      · cases fieldType; cases fieldData; cases rest; cases found
        norm_num [InYears, TimeUnit.nanos]
      · cases fieldType; cases fieldData
        cases rest with
        | element there slice inside rest => cases rest
      · cases fieldType; cases fieldData
        cases rest with
        | branch coded named branchType branchData addressed rest =>
          cases coded; cases named; cases branchType; cases branchData; cases rest
      · cases fieldType

/-- The first visit is read as what it stands for. -/
theorem cell_ofColumn_visit :
    ∃ declared, NativeType.ofColumn visitType = .ok declared ∧ visitType.IsFlat ∧
      visitData.Valid visitType ∧ 0 < visitData.length ∧ visitData.InCalendar visitType 0 ∧
      ∃ vector, ColumnVector.ofColumn visitType visitData = .ok vector ∧
        ∃ value, vector.cell .standard declared none 0 = .ok value ∧
          visitData.Denotes visitType 0 value ∧ value ≠ .null := by
  have flat : visitType.IsFlat := ⟨trivial, trivial, ⟨trivial, trivial, trivial⟩, trivial⟩
  have hr : 0 < visitData.length := by decide
  obtain ⟨vector, laid, h⟩ := cell_ofColumn_iff_denotes rfl flat visitData_valid
  obtain ⟨⟨value, hvalue⟩, hcell, hnull⟩ := h 0 hr visitData_inCalendar
  have hread := (hcell value).mpr hvalue
  refine ⟨_, rfl, flat, visitData_valid, hr, visitData_inCalendar, vector, laid, value, hread,
    hvalue, ?_⟩
  intro missing
  exact absurd (hnull.mp (missing ▸ hread)) (by decide)

end OrcRows
