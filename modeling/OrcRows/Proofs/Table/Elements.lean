import OrcRows.Proofs.Table.Parts
import Mathlib.Data.List.Forall2

/-!
# The elements of a column

The arrays of a column are one way of laying out its elements; the same elements may be laid out in
other stripes and behind other bounds. `ColumnData.elements?` takes them out of the arrays, row by
row and at every depth. A column that has elements can be laid out as a vector.
-/

namespace OrcRows

/-- What stands in a row of a table column, whatever arrays it lies in. -/
inductive Element where
  /-- Nothing. -/
  | missing
  /-- An integer: a truth value, a day or a count of time units too. -/
  | integer (value : Int)
  | floating (value : Binary64)
  /-- Bytes: text too. -/
  | bytes (value : List UInt8)
  | decimal (value : Decimal)
  | list (members : List Element)
  /-- Keys and values, entry by entry; nothing prevents that a key occurs twice. -/
  | map (keys values : List Element)
  | struct (fields : List Element)
  /-- A value of the branch at a place. -/
  | union (place : Nat) (value : Element)

/-- The element of a leaf cell. -/
def Element.ofCell {α : Type} (make : α → Element) : Option α → Element
  | some stored => make stored
  | none => missing

namespace ColumnData

/-- The elements of rows that are there or missing; one that is there has to be found. -/
def rowElements (present : List Bool) (find : Nat → Option Element) : Option (List Element) :=
  present.zipIdx.mapM fun (there, row) => if there then find row else some .missing

/-- The members that a row of bounds delimits. -/
def slice? (bounds : List Int) (members : List Element) (row : Nat) : Option (List Element) := do
  let first ← bounds[row]?
  let last ← bounds[row + 1]?
  if 0 ≤ first ∧ first ≤ last ∧ last ≤ members.length then
    some ((members.drop first.toNat).take (last - first).toNat)
  else none

/-- The row of its branch that a row of a union designates. -/
def target? (dense : Bool) (offsets : Option (List Int)) (row : Nat) : Option Nat :=
  if dense then do
    let target ← (← offsets)[row]?
    if 0 ≤ target then some target.toNat else none
  else some row

/-- The element of a row of a union: the element of the branch that its code names. -/
def branchElement? (dense : Bool) (codes : List Int) (columns : List (List Element))
    (offsets : Option (List Int)) (code : Int) (row : Nat) : Option Element := do
  let place ← codes.idxOf? code
  let column ← columns[place]?
  let target ← target? dense offsets row
  return .union place (← column[target]?)

mutual

/-- The elements of a column, row by row; arrays that do not fit together have none. -/
def elements? (type : ColumnType) (data : ColumnData) : Option (List Element) :=
  match type, data with
  | .boolean, integers cells | .integer .., integers cells | .date, integers cells
  | .timestamp _, integers cells => some (cells.map (Element.ofCell .integer))
  | .floating _, floats cells => some (cells.map (Element.ofCell .floating))
  | .text _, bytes cells | .binary _, bytes cells => some (cells.map (Element.ofCell .bytes))
  | .decimal .., decimals cells => some (cells.map (Element.ofCell .decimal))
  | .list element, list present bounds child => do
    let members ← elements? element child
    rowElements present fun row => (slice? bounds members row).map .list
  | .map key value, map present bounds keys values => do
    let keys ← elements? key keys
    let values ← elements? value values
    rowElements present fun row => do
      return .map (← slice? bounds keys row) (← slice? bounds values row)
  | .struct fields, struct present columns => do
    let columns ← fieldElements? fields columns
    rowElements present fun row => (columns.mapM (·[row]?)).map .struct
  | .union dense branches codes, union rowCodes columns offsets => do
    let columns ← fieldElements? branches columns
    rowCodes.zipIdx.mapM fun (code, row) => branchElement? dense codes columns offsets code row
  | _, _ => none

/-- The elements of the columns of fields or branches. -/
def fieldElements? : List (String × ColumnType) → List ColumnData → Option (List (List Element))
  | (_, type) :: fields, column :: columns => do
    let elements ← elements? type column
    return elements :: (← fieldElements? fields columns)
  | [], [] => some []
  | _, _ => none

end

end ColumnData

section Lists

variable {α β : Type}

/-- Results that are all there are there one by one. -/
theorem forall₂_of_mapM_eq_some {f : α → Option β} {inputs : List α} {results : List β}
    (h : inputs.mapM f = some results) :
    List.Forall₂ (fun input result => f input = some result) inputs results := by
  induction inputs generalizing results with
  | nil =>
    injection h with same
    exact same ▸ .nil
  | cons head rest ih =>
    rw [List.mapM_cons] at h
    obtain ⟨first, hf, h⟩ := Option.bind_eq_some_iff.mp h
    obtain ⟨others, ho, h⟩ := Option.bind_eq_some_iff.mp h
    injection h with same
    exact same ▸ .cons hf (ih ho)

/-- Each of some results that are all there comes from the input at its place. -/
theorem getElem?_of_mapM_eq_some {f : α → Option β} {inputs : List α} {results : List β}
    (h : inputs.mapM f = some results) {place : Nat} {result : β}
    (hr : results[place]? = some result) :
    ∃ input, inputs[place]? = some input ∧ f input = some result := by
  have hall := forall₂_of_mapM_eq_some h
  obtain ⟨inside, rfl⟩ := List.getElem?_eq_some_iff.mp hr
  have inside' : place < inputs.length := hall.length_eq ▸ inside
  exact ⟨inputs[place], List.getElem?_eq_getElem inside', hall.get inside' inside⟩

/-- Results that are all there are there for every input. -/
theorem exists_of_mapM_eq_some {f : α → Option β} {inputs : List α} {results : List β}
    (h : inputs.mapM f = some results) {input : α} (hi : input ∈ inputs) :
    ∃ result, f input = some result := by
  have hall := forall₂_of_mapM_eq_some h
  obtain ⟨place, inside, rfl⟩ := List.mem_iff_getElem.mp hi
  exact ⟨_, hall.get inside (hall.length_eq ▸ inside)⟩

/-- Results are all there if there is one for every input. -/
theorem exists_mapM_eq_some {f : α → Option β} {inputs : List α}
    (h : ∀ input ∈ inputs, ∃ result, f input = some result) :
    ∃ results, inputs.mapM f = some results := by
  induction inputs with
  | nil => exact ⟨[], rfl⟩
  | cons head rest ih =>
    obtain ⟨⟨first, hf⟩, hrest⟩ := List.forall_mem_cons.mp h
    obtain ⟨others, ho⟩ := ih hrest
    exact ⟨first :: others, by rw [List.mapM_cons, hf, ho]; rfl⟩

/-- Results that are all there are the results of the inputs. -/
theorem map_getD_of_mapM_eq_some {f : α → Option β} {inputs : List α} {results : List β}
    (h : inputs.mapM f = some results) (filler : β) :
    inputs.map (fun input => (f input).getD filler) = results := by
  have hall := forall₂_of_mapM_eq_some h
  clear h
  induction hall with
  | nil => rfl
  | cons first _ ih => rw [List.map_cons, first, ih, Option.getD_some]

/-- Members of a part are members of the whole. -/
theorem getElem?_take_drop {first count place : Nat} {members : List α} (h : place < count) :
    ((members.drop first).take count)[place]? = members[first + place]? := by
  rw [List.getElem?_take, if_pos h, List.getElem?_drop]

end Lists

namespace ColumnData

/-- There are as many elements as rows, and each is missing or found. -/
theorem rowElements_eq_some {present : List Bool} {find : Nat → Option Element}
    {elements : List Element} (h : rowElements present find = some elements) :
    elements.length = present.length ∧
      ∀ (row : Nat) (element : Element), elements[row]? = some element →
        present[row]? = some false ∧ element = .missing ∨
          present[row]? = some true ∧ find row = some element := by
  constructor
  · rw [← (forall₂_of_mapM_eq_some h).length_eq, List.length_zipIdx]
  · intro row element he
    obtain ⟨⟨there, row'⟩, hrow, found⟩ := getElem?_of_mapM_eq_some h he
    rw [List.getElem?_zipIdx, Nat.zero_add] at hrow
    obtain ⟨_, hthere, same⟩ := Option.map_eq_some_iff.mp hrow
    cases same
    cases there with
    | true => exact .inr ⟨hthere, found⟩
    | false =>
      injection found with same
      exact .inl ⟨hthere, same.symm⟩

/-- A part of the members is a slice of consecutive ones. -/
theorem slice?_eq_some {bounds : List Int} {members part : List Element} {row : Nat}
    (h : slice? bounds members row = some part) :
    ∃ first, IsSlice bounds row first part.length ∧
      ∀ place, place < part.length → members[first + place]? = part[place]? := by
  obtain ⟨first, hfirst, h⟩ := Option.bind_eq_some_iff.mp h
  obtain ⟨last, hlast, h⟩ := Option.bind_eq_some_iff.mp h
  split at h
  case isTrue ordered =>
    injection h with same
    have hlength : part.length = (last - first).toNat := by
      rw [← same, List.length_take, List.length_drop]
      omega
    refine ⟨first.toNat, ⟨?_, ?_⟩, fun place inside => ?_⟩
    · rw [Int.toNat_of_nonneg ordered.1]
      exact hfirst
    · rw [hlast, hlength]
      congr 1
      omega
    · rw [← same, getElem?_take_drop (hlength ▸ inside)]
  case isFalse => cases h

/-- An element of a union is an element of the branch that its code names. -/
theorem branchElement?_of_mapM {dense : Bool} {codes rowCodes : List Int}
    {columns : List (List Element)} {offsets : Option (List Int)} {all : List Element}
    {row : Nat} {element : Element}
    (h : (rowCodes.zipIdx.mapM fun (code, row) =>
      branchElement? dense codes columns offsets code row) = some all)
    (he : all[row]? = some element) :
    ∃ code place column target value, rowCodes[row]? = some code ∧ codes.idxOf? code = some place ∧
      columns[place]? = some column ∧ target? dense offsets row = some target ∧
      column[target]? = some value ∧ element = .union place value := by
  obtain ⟨⟨code, row'⟩, hrow, found⟩ := getElem?_of_mapM_eq_some h he
  rw [List.getElem?_zipIdx, Nat.zero_add] at hrow
  obtain ⟨_, hcode, same⟩ := Option.map_eq_some_iff.mp hrow
  cases same
  obtain ⟨place, hplace, found⟩ := Option.bind_eq_some_iff.mp found
  obtain ⟨column, hcolumn, found⟩ := Option.bind_eq_some_iff.mp found
  obtain ⟨target, htarget, found⟩ := Option.bind_eq_some_iff.mp found
  obtain ⟨value, hvalue, found⟩ := Option.bind_eq_some_iff.mp found
  injection found with same
  exact ⟨code, place, column, target, value, hcode, hplace, hcolumn, htarget, hvalue, same.symm⟩

mutual

/-- A column that has elements can be laid out, and has as many rows. -/
theorem exists_ofColumn_of_elements? (type : ColumnType) {data : ColumnData}
    {elements : List Element} (h : elements? type data = some elements) :
    (∃ vector, ColumnVector.ofColumn type data = .ok vector) ∧ elements.length = data.length := by
  cases type with
  | list element =>
    cases data <;> try contradiction
    obtain ⟨members, hm, h⟩ := Option.bind_eq_some_iff.mp h
    obtain ⟨⟨vector, hv⟩, _⟩ := exists_ofColumn_of_elements? element hm
    exact ⟨⟨_, by rw [ColumnVector.ofColumn.eq_def]; simp only [hv]; rfl⟩,
      (rowElements_eq_some h).1⟩
  | map key value =>
    cases data <;> try contradiction
    obtain ⟨keys, hk, h⟩ := Option.bind_eq_some_iff.mp h
    obtain ⟨values, hv, h⟩ := Option.bind_eq_some_iff.mp h
    obtain ⟨⟨keyVector, hkv⟩, _⟩ := exists_ofColumn_of_elements? key hk
    obtain ⟨⟨valueVector, hvv⟩, _⟩ := exists_ofColumn_of_elements? value hv
    exact ⟨⟨_, by rw [ColumnVector.ofColumn.eq_def]; simp only [hkv, hvv]; rfl⟩,
      (rowElements_eq_some h).1⟩
  | struct fields =>
    cases data <;> try contradiction
    obtain ⟨columns, hc, h⟩ := Option.bind_eq_some_iff.mp h
    obtain ⟨vectors, hv⟩ := exists_ofColumns_of_fieldElements? fields hc
    exact ⟨⟨_, by rw [ColumnVector.ofColumn.eq_def]; simp only [hv]; rfl⟩,
      (rowElements_eq_some h).1⟩
  | union dense branches codes =>
    cases data with
    | union rowCodes columns offsets =>
      obtain ⟨inner, hc, h⟩ := Option.bind_eq_some_iff.mp h
      obtain ⟨vectors, hv⟩ := exists_ofColumns_of_fieldElements? branches hc
      have hcoded : ∀ code ∈ rowCodes, ∃ tag, Outcome.ofOption .badValue
          ((codes.idxOf? code).map fun (place : Nat) => (place : Int)) = .ok tag := by
        intro code member
        obtain ⟨row, hrow⟩ := List.mem_iff_getElem?.mp member
        have hindexed : (code, row) ∈ rowCodes.zipIdx := List.mem_zipIdx_iff_getElem?.mpr hrow
        obtain ⟨element, he⟩ := exists_of_mapM_eq_some h hindexed
        obtain ⟨place, hplace, _⟩ := Option.bind_eq_some_iff.mp he
        exact ⟨place, by rw [hplace]; rfl⟩
      obtain ⟨tags, ht⟩ := Outcome.exists_mapM_eq_ok hcoded
      refine ⟨⟨_, by rw [ColumnVector.ofColumn.eq_def]; simp only [ht, hv]; rfl⟩, ?_⟩
      rw [← (forall₂_of_mapM_eq_some h).length_eq, List.length_zipIdx]
      rfl
    | _ => contradiction
  | foreign name => contradiction
  | _ =>
    cases data <;> try contradiction
    injection h with same
    exact ⟨⟨_, rfl⟩, by rw [← same, List.length_map]; rfl⟩

/-- Columns that have elements can be laid out. -/
theorem exists_ofColumns_of_fieldElements? (fields : List (String × ColumnType))
    {columns : List ColumnData} {elements : List (List Element)}
    (h : fieldElements? fields columns = some elements) :
    ∃ vectors, ColumnVector.ofColumns fields columns = .ok vectors := by
  match fields, columns with
  | [], [] => exact ⟨[], rfl⟩
  | [], _ :: _ => contradiction
  | _ :: _, [] => contradiction
  | (name, type) :: fields, column :: columns =>
    obtain ⟨first, hf, h⟩ := Option.bind_eq_some_iff.mp h
    obtain ⟨others, ho, _⟩ := Option.bind_eq_some_iff.mp h
    obtain ⟨⟨vector, hv⟩, _⟩ := exists_ofColumn_of_elements? type hf
    obtain ⟨vectors, hs⟩ := exists_ofColumns_of_fieldElements? fields ho
    exact ⟨vector :: vectors, by rw [ColumnVector.ofColumns.eq_def]; simp only [hv, hs]; rfl⟩

end

section Valid

/-- Rows have elements if every row that is there has one. -/
theorem exists_rowElements {present : List Bool} {find : Nat → Option Element}
    (h : ∀ row, row < present.length → ∃ element, find row = some element) :
    ∃ elements, rowElements present find = some elements := by
  refine exists_mapM_eq_some fun (there, row) member => ?_
  obtain ⟨inside, _⟩ := List.getElem?_eq_some_iff.mp (List.mem_zipIdx_iff_getElem?.mp member)
  cases there with
  | true => exact h row inside
  | false => exact ⟨.missing, rfl⟩

/-- A slice of consecutive members is a part of them. -/
theorem exists_slice? {bounds : List Int} {members : List Element} {row first count : Nat}
    (h : IsSlice bounds row first count) (room : first + count ≤ members.length) :
    ∃ part, slice? bounds members row = some part := by
  have ordered : 0 ≤ (first : Int) ∧ (first : Int) ≤ ((first + count : Nat) : Int) ∧
      ((first + count : Nat) : Int) ≤ (members.length : Int) := by omega
  exact ⟨_, by rw [slice?, h.1, h.2]; exact if_pos ordered⟩

/-- Columns of fields have elements, as many as each has rows. -/
theorem exists_fieldElements? {fields : List (String × ColumnType)} {columns : List ColumnData}
    (hlength : columns.length = fields.length)
    (h : ∀ (place : Nat) (field : String × ColumnType) (column : ColumnData),
      fields[place]? = some field → columns[place]? = some column →
      ∃ all, column.elements? field.2 = some all) :
    ∃ inner, fieldElements? fields columns = some inner ∧
      List.Forall₂ (fun column all => all.length = column.length) columns inner := by
  induction fields generalizing columns with
  | nil =>
    rw [List.eq_nil_of_length_eq_zero hlength]
    exact ⟨[], rfl, .nil⟩
  | cons field fields ih =>
    obtain ⟨column, columns, rfl⟩ := List.exists_cons_of_length_eq_add_one hlength
    obtain ⟨all, hall⟩ := h 0 field column rfl rfl
    obtain ⟨inner, hinner, lengths⟩ := ih (by simpa using hlength) fun place field column hf hc =>
      h (place + 1) field column hf hc
    refine ⟨all :: inner, ?_, .cons (exists_ofColumn_of_elements? field.2 hall).2 lengths⟩
    rw [fieldElements?.eq_def]
    simp only [hall, hinner]
    rfl

/-- Data that a column may have has elements. -/
theorem Valid.exists_elements? {type : ColumnType} {data : ColumnData} (valid : data.Valid type) :
    ∃ all, data.elements? type = some all := by
  induction valid with
  | @list element present bounds child slices _ ih =>
    obtain ⟨members, hm⟩ := ih
    have hlength := (exists_ofColumn_of_elements? element hm).2
    obtain ⟨all, hall⟩ : ∃ all, rowElements present
        (fun row => (slice? bounds members row).map .list) = some all := by
      refine exists_rowElements fun row inside => ?_
      obtain ⟨first, count, bounded, room⟩ := slices.2 row inside
      obtain ⟨part, hpart⟩ := exists_slice? bounded (hlength ▸ room)
      exact ⟨.list part, by rw [hpart]; rfl⟩
    exact ⟨all, by rw [elements?.eq_def]; simp only [hm]; exact hall⟩
  | @map key value present bounds keys values slices paired _ _ ihKey ihValue =>
    obtain ⟨keyMembers, hk⟩ := ihKey
    obtain ⟨valueMembers, hv⟩ := ihValue
    have hkeys := (exists_ofColumn_of_elements? key hk).2
    have hvalues := (exists_ofColumn_of_elements? value hv).2
    obtain ⟨all, hall⟩ : ∃ all, rowElements present (fun row => do
        return .map (← slice? bounds keyMembers row) (← slice? bounds valueMembers row)) =
          some all := by
      refine exists_rowElements fun row inside => ?_
      obtain ⟨first, count, bounded, room⟩ := slices.2 row inside
      obtain ⟨keyPart, hkp⟩ := exists_slice? bounded (hkeys.symm ▸ room)
      obtain ⟨valuePart, hvp⟩ := exists_slice? bounded (hvalues.trans paired ▸ room)
      exact ⟨.map keyPart valuePart, by rw [hkp, hvp]; rfl⟩
    exact ⟨all, by rw [elements?.eq_def]; simp only [hk, hv]; exact hall⟩
  | @struct fields present columns width rows _ ih =>
    obtain ⟨inner, hinner, lengths⟩ := exists_fieldElements? width ih
    obtain ⟨all, hall⟩ : ∃ all, rowElements present
        (fun row => (inner.mapM (·[row]?)).map .struct) = some all := by
      refine exists_rowElements fun row inside => ?_
      obtain ⟨members, hm⟩ : ∃ members, inner.mapM (·[row]?) = some members := by
        refine exists_mapM_eq_some fun column member => ?_
        obtain ⟨place, hplace, rfl⟩ := List.mem_iff_getElem.mp member
        have hplace' : place < columns.length := lengths.length_eq ▸ hplace
        have hlength : inner[place].length = columns[place].length := lengths.get hplace' hplace
        rw [← rows columns[place] (List.getElem_mem hplace'), ← hlength] at inside
        exact ⟨_, List.getElem?_eq_getElem inside⟩
      exact ⟨.struct members, by rw [hm]; rfl⟩
    exact ⟨all, by rw [elements?.eq_def]; simp only [hinner]; exact hall⟩
  | @union dense branches codes rowCodes columns offsets width coded known _ rows ih =>
    obtain ⟨inner, hinner, lengths⟩ := exists_fieldElements? width ih
    obtain ⟨all, hall⟩ : ∃ all, (rowCodes.zipIdx.mapM fun (code, row) =>
        branchElement? dense codes inner offsets code row) = some all := by
      refine exists_mapM_eq_some fun (code, row) member => ?_
      have hcode : rowCodes[row]? = some code := List.mem_zipIdx_iff_getElem?.mp member
      obtain ⟨place, hplace⟩ := Option.isSome_iff_exists.mp
        (List.isSome_idxOf?.mpr (known code (List.mem_of_getElem? hcode)))
      have hp : place < codes.length := (List.idxOf?_eq_some_iff.mp hplace).1
      have inside : place < columns.length := by omega
      have inside' : place < inner.length := lengths.length_eq ▸ inside
      obtain ⟨target, room, addressed⟩ :=
        rows row place code _ hcode hplace (List.getElem?_eq_getElem inside)
      have hlength : inner[place].length = columns[place].length := lengths.get inside inside'
      have htarget : target? dense offsets row = some target := by
        cases dense with
        | false =>
          obtain rfl : target = row := addressed
          rfl
        | true =>
          obtain ⟨known, rfl, hknown⟩ := addressed
          simp [target?, hknown]
      obtain ⟨value, hvalue⟩ : ∃ value, inner[place][target]? = some value :=
        ⟨_, List.getElem?_eq_getElem (hlength ▸ room)⟩
      refine ⟨.union place value, ?_⟩
      simp only [branchElement?, hplace, htarget, List.getElem?_eq_getElem inside', hvalue,
        Option.bind_eq_bind, Option.bind_some]
      rfl
    exact ⟨all, by rw [elements?.eq_def]; simp only [hinner]; exact hall⟩
  | _ => exact ⟨_, rfl⟩

end Valid

end ColumnData

end OrcRows
