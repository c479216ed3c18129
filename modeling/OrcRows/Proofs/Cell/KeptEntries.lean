import OrcRows.Proofs.Cell.PresentedKeys
import OrcRows.Proofs.Cell.Presenting
import OrcRows.Proofs.Cell.ReadCells

/-!
# Entries under the type of their map

A map has as many entries under a type as it has without one, if the type keeps its stored keys
apart. A time does not: two moments at one time of day are two keys of a map of moments, and one key
under a time, so that an entry is lost.
-/

namespace OrcRows

open Outcome

variable {policy : TextPolicy}

section Columns

variable {category : Category} {a b : Value}

/-- Integers of one category are leaves of one column. -/
theorem ofOneColumn_longValue {x y : Int} (ha : longValue category x = .ok a)
    (hb : longValue category y = .ok b) : Value.OfOneColumn category a b := by
  have dated {day : Int} {value : Value} (h : longValue .date day = .ok value) :
      ∃ date, value = .date date := by
    rw [longValue] at h
    split at h
    case h_1 date _ =>
      cases h
      exact ⟨date, rfl⟩
    case h_2 => cases h
  cases category with
  | date =>
    obtain ⟨_, rfl⟩ := dated ha
    obtain ⟨_, rfl⟩ := dated hb
    trivial
  | _ =>
    cases ha
    cases hb
    trivial

/-- What bytes are read as is bytes or text. -/
theorem exists_of_bytesValue {x : List UInt8} (h : bytesValue policy category x = .ok a) :
    (∃ raw, a = .bytes raw) ∨ ∃ shown, a = .text shown := by
  rw [bytesValue] at h
  split at h
  case isTrue =>
    cases h
    exact .inl ⟨x, rfl⟩
  case isFalse =>
    obtain ⟨shown, _, rfl⟩ := map_eq_ok h
    exact .inr ⟨shown, rfl⟩

/-- Moments of one category are leaves of one column. -/
theorem ofOneColumn_timestampValue {milli nano milli' nano' : Int}
    (ha : timestampValue category none milli nano = .ok a)
    (hb : timestampValue category none milli' nano' = .ok b) :
    Value.OfOneColumn category a b := by
  have kind {milli nano : Int} {value : Value}
      (h : timestampValue category none milli nano = .ok value) :
      ∃ moment : Timestamp, value =
        if category = .date then .date moment.date else .timestamp moment := by
    rw [timestampValue] at h
    split at h
    case h_1 => cases h
    case h_2 moment _ =>
      refine ⟨moment, ?_⟩
      split at h
      case isTrue dated =>
        cases h
        rw [if_pos dated]
      case isFalse other =>
        cases h
        rw [if_neg other]
  obtain ⟨_, rfl⟩ := kind ha
  obtain ⟨_, rfl⟩ := kind hb
  split <;> trivial

/-- Two values of one leaf storage are leaves of one column. -/
theorem LeafCells.ofOneColumn {cells : LeafCells} {place place' : Int}
    (ha : cells.value policy category none place = .ok a)
    (hb : cells.value policy category none place' = .ok b) : Value.OfOneColumn category a b := by
  cases cells with
  | long values =>
    obtain ⟨_, _, ha⟩ := bind_eq_ok ha
    obtain ⟨_, _, hb⟩ := bind_eq_ok hb
    exact ofOneColumn_longValue ha hb
  | double values =>
    obtain ⟨x, _, rfl⟩ := map_eq_ok ha
    obtain ⟨y, _, rfl⟩ := map_eq_ok hb
    intro narrow
    rw [if_pos narrow, if_pos narrow]
    exact ⟨Binary64.isSingle_toSingle x, Binary64.isSingle_toSingle y⟩
  | bytes values =>
    obtain ⟨_, _, ha⟩ := bind_eq_ok ha
    obtain ⟨_, _, hb⟩ := bind_eq_ok hb
    obtain ⟨_, rfl⟩ | ⟨_, rfl⟩ := exists_of_bytesValue ha <;>
      obtain ⟨_, rfl⟩ | ⟨_, rfl⟩ := exists_of_bytesValue hb <;> trivial
  | decimal values =>
    obtain ⟨_, _, ha⟩ := bind_eq_ok ha
    obtain ⟨_, _, ha⟩ := bind_eq_ok ha
    obtain ⟨_, _, hb⟩ := bind_eq_ok hb
    obtain ⟨_, _, hb⟩ := bind_eq_ok hb
    cases ha
    cases hb
    trivial
  | timestamp millis nanos =>
    obtain ⟨_, _, ha⟩ := bind_eq_ok ha
    obtain ⟨_, _, ha⟩ := bind_eq_ok ha
    obtain ⟨_, _, hb⟩ := bind_eq_ok hb
    obtain ⟨_, _, hb⟩ := bind_eq_ok hb
    exact ofOneColumn_timestampValue ha hb

end Columns

section Elements

variable {flags : RowFlags} {cells : LeafCells} {declared : NativeType} {type : UnifiedType}
  {a b a' b' : Value}

/-- An element is missing with and without a type, or it is a leaf of the storage that is walked
under the type. -/
theorem elementCell_walked {row : Int}
    (ha : elementCell policy flags cells declared none row = .ok a)
    (ha' : elementCell policy flags cells declared (some type) row = .ok a') :
    (a = .null ∧ a' = .null) ∨
      (cells.value policy declared.category none (flags.index row) = .ok a ∧
        a.underLeaf policy declared.category type = .ok a' ∧ a.IsLeaf) := by
  obtain ⟨null, hnull, ha⟩ := bind_eq_ok ha
  rw [elementCell, hnull, ok_bind] at ha'
  cases null with
  | true =>
    cases ha
    cases ha'
    exact .inl ⟨rfl, rfl⟩
  | false =>
    obtain ⟨found, hfound, hv⟩ := bind_eq_ok ha
    cases hv
    obtain ⟨walked, leaf⟩ := LeafCells.isWalked hfound
    exact .inr ⟨hfound, walked.symm.trans ha', leaf⟩

/-- What is missing is not the same as a leaf. -/
theorem Value.IsLeaf.same_null (leaf : a.IsLeaf) :
    Value.same .null a = false ∧ Value.same a .null = false := by
  cases a with
  | null | list | map | row => exact leaf.elim
  | float x => cases x <;> exact ⟨rfl, rfl⟩
  | decimal x => cases x <;> exact ⟨rfl, rfl⟩
  | _ => exact ⟨rfl, rfl⟩

/-- Two elements that a type keeps apart are the same under it exactly if they are the same. -/
theorem same_elementCell {row row' : Int} (apart : Value.KeptApart policy type a b)
    (ha : elementCell policy flags cells declared none row = .ok a)
    (hb : elementCell policy flags cells declared none row' = .ok b)
    (ha' : elementCell policy flags cells declared (some type) row = .ok a')
    (hb' : elementCell policy flags cells declared (some type) row' = .ok b') :
    Value.same a' b' = Value.same a b := by
  rcases elementCell_walked ha ha' with ⟨rfl, rfl⟩ | ⟨read, walked, leaf⟩
  · rcases elementCell_walked hb hb' with ⟨rfl, rfl⟩ | ⟨_, walked', leaf'⟩
    · rfl
    · rw [(leaf'.underLeaf walked').same_null.1, leaf'.same_null.1]
  · rcases elementCell_walked hb hb' with ⟨rfl, rfl⟩ | ⟨read', walked', _⟩
    · rw [(leaf.underLeaf walked).same_null.2, leaf.same_null.2]
    · exact Value.same_underLeaf (LeafCells.ofOneColumn read read') apart walked walked'

/-- Keys that a type keeps apart are the same under it exactly if they are the same. -/
theorem pairwise_same {first : Int} {count : Nat} {keys keys' : List Value}
    (apart : keys.Pairwise (Value.KeptApart policy type))
    (read : readRows (elementCell policy flags cells declared none) first count = .ok keys)
    (read' : readRows (elementCell policy flags cells declared (some type)) first count =
      .ok keys') :
    (keys.zip keys').Pairwise fun earlier later =>
      Value.same earlier.1 later.1 = Value.same earlier.2 later.2 := by
  rw [List.pairwise_iff_getElem] at apart ⊢
  intro place place' within within' before
  rw [List.getElem_zip, List.getElem_zip]
  rw [List.length_zip, lt_min_iff] at within within'
  exact (same_elementCell (apart place place' within.1 within'.1 before)
    (read_of_readRows read (List.getElem?_eq_getElem within.1))
    (read_of_readRows read (List.getElem?_eq_getElem within'.1))
    (read_of_readRows read' (List.getElem?_eq_getElem within.2))
    (read_of_readRows read' (List.getElem?_eq_getElem within'.2))).symm

end Elements

namespace Value

/-- Maps of as many pairs have as many entries if the same keys are the same on both sides. -/
theorem length_collectEntries {keys keys' values values' : List Value}
    (paired : keys.length = values.length) (paired' : keys'.length = values'.length)
    (count : keys.length = keys'.length)
    (agree : (keys.zip keys').Pairwise fun earlier later =>
      same earlier.1 later.1 = same earlier.2 later.2) :
    (collectEntries (keys.zip values)).length = (collectEntries (keys'.zip values')).length := by
  have linked {left right : List Value} (same : left.length = right.length) :
      List.Forall₂ (fun _ _ => True) left right :=
    List.forall₂_iff_zip.mpr ⟨same, fun _ => trivial⟩
  have count' : values.length = values'.length := paired.symm.trans (count.trans paired')
  exact (forall₂_collectEntries (forall₂_zip_zip (linked count) (linked count'))
    (pairwise_zip_zip paired paired' agree)).length_eq

end Value

namespace ColumnVector

/-- A type keeps apart the keys that a row of a map vector stores, those of replaced entries
included. -/
def KeepsKeys (policy : TextPolicy) (row : Int) :
    ColumnVector → NativeType → UnifiedType → Prop
  | map flags offsets lengths (some keys) (some values), .node _ [key, value] _ _ _, .map type _ =>
    ∀ keyList valueList,
      Stores policy flags offsets lengths keys values key value row keyList valueList →
        keyList.Pairwise (Value.KeptApart policy type)
  | _, _, _ => True

/-- A map that is read with and without the type that it was given has as many entries with the type
as it has without, if the type keeps its stored keys apart. -/
theorem cell_keeps_entries {vector : ColumnVector} {declared : NativeType}
    {target : Option UnifiedType} {unified : UnifiedType} {row : Int}
    {entries entries' : List (Value × Value)} (h : vector.Matches LeafCells.IsKindOf declared)
    (mapped : declared.unify target = .ok unified)
    (apart : vector.KeepsKeys policy row declared unified)
    (read : vector.cell policy declared none row = .ok (.map entries))
    (shown : vector.cell policy declared (some unified) row = .ok (.map entries')) :
    entries'.length = entries.length := by
  obtain ⟨_, null⟩ | ⟨_, made⟩ := cell_eq_ok read
  · cases null
  obtain ⟨_, null⟩ | ⟨_, made'⟩ := cell_eq_ok shown
  · cases null
  obtain ⟨flags, offsets, lengths, keys, values, rfl, isMap⟩ := made.exists_map
  obtain ⟨keyVector, valueVector, key, value, _, _, _, rfl, rfl, rfl, _, _⟩ :=
    exists_of_matches_map h
  obtain ⟨_, _, keyType, valueType, _, _, rfl⟩ := NativeType.unify_map mapped
  obtain ⟨_, _, _, _, bounds, keyList, valueList, same, same', ofKey, ofValue, place, hkeys,
    hvalues, collected⟩ := isMap
  cases same
  cases same'
  cases ofKey
  cases ofValue
  cases collected
  obtain ⟨_, _, _, _, bounds', keyList', valueList', same, same', ofKey, ofValue, place', hkeys',
    hvalues', collected⟩ : IsMapOf .. := made'
  cases same
  cases same'
  cases ofKey
  cases ofValue
  cases collected
  cases place.symm.trans place'
  have kept := apart keyList valueList ⟨bounds, place, hkeys, hvalues⟩
  obtain ⟨keyFlags, keyCells, rfl, readKeys⟩ := elements_eq_ok hkeys
  obtain ⟨valueFlags, valueCells, rfl, readValues⟩ := elements_eq_ok hvalues
  have count := length_readRows readKeys
  have count' := length_readRows hkeys'
  exact (Value.length_collectEntries (count.trans (length_readRows readValues).symm)
    (count'.trans (length_readRows hvalues').symm) (count.trans count'.symm)
    (pairwise_same kept readKeys hkeys')).symm

end ColumnVector

/-- The declared type of visits by moment. -/
def visitsType : NativeType := .map (.primitive .timestamp) (.primitive .int)

/-- The type of visits by time of day. -/
def visitsUnified : UnifiedType := .map (.basic .time) (.basic .int)

/-- The visits of two midnights. -/
def visitsVector : ColumnVector :=
  .map ⟨[false], true, false⟩ [0] [2]
    (some (.leaf ⟨[false, false], true, false⟩ (.timestamp [0, 86400000] [0, 0])))
    (some (.leaf ⟨[false, false], true, false⟩ (.long [1, 2])))

/-- The visits of two midnights are two entries by moment and one entry by time of day. -/
theorem visits_not_kept :
    visitsVector.Matches LeafCells.IsKindOf visitsType ∧
      visitsType.unify (some visitsUnified) = .ok visitsUnified ∧
      ∃ entries entries', visitsVector.cell .standard visitsType none 0 = .ok (.map entries) ∧
        visitsVector.cell .standard visitsType (some visitsUnified) 0 = .ok (.map entries') ∧
        entries.length = 2 ∧ entries'.length = 1 :=
  ⟨⟨rfl, rfl⟩, rfl,
    [(.timestamp ⟨0, by decide⟩, .int 1), (.timestamp ⟨86400000000, by decide⟩, .int 2)],
    [(.time ⟨0, by decide⟩, .int 2)], rfl, rfl, rfl, rfl⟩

/-- The declared type of counts by number. -/
def countsType : NativeType := .map (.primitive .bigint) (.primitive .int)

/-- The type of counts by floating-point number. -/
def countsUnified : UnifiedType := .map (.basic .double) (.basic .int)

/-- Three counts, the last of which replaces the first. -/
def countsVector : ColumnVector :=
  .map ⟨[false], true, false⟩ [0] [3]
    (some (.leaf ⟨[false, false, false], true, false⟩ (.long [5, -7, 5])))
    (some (.leaf ⟨[false, false, false], true, false⟩ (.long [1, 2, 3])))

/-- The counts are two entries under the type that they were given. -/
theorem counts_kept :
    countsVector.Matches LeafCells.IsKindOf countsType ∧
      countsType.unify (some countsUnified) = .ok countsUnified ∧
      countsVector.KeepsKeys .standard 0 countsType countsUnified ∧
      ∃ entries entries', countsVector.cell .standard countsType none 0 = .ok (.map entries) ∧
        countsVector.cell .standard countsType (some countsUnified) 0 = .ok (.map entries') ∧
        entries'.length = entries.length := by
  have matching : countsVector.Matches LeafCells.IsKindOf countsType := ⟨rfl, rfl⟩
  have mapped : countsType.unify (some countsUnified) = .ok countsUnified := rfl
  have apart : countsVector.KeepsKeys .standard 0 countsType countsUnified := by
    rintro keyList valueList ⟨bounds, place, hkeys, hvalues⟩
    cases place
    cases hkeys
    have held (x : Int) (fits : FitsBits 32 x) : BinaryFormat.double.Holds x.natAbs :=
      BinaryFormat.holds_of_fitsBits (by decide) (by decide) (by decide) (by decide) fits
    have kept (x y : Int) (fits : FitsBits 32 x) (fits' : FitsBits 32 y) :
        Value.KeptApart .standard (.basic .double) (.int x) (.int y) :=
      ⟨fun other => absurd other (by decide), fun _ => ⟨held x fits, held y fits'⟩⟩
    have five : FitsBits 32 5 := by constructor <;> norm_num
    have seven : FitsBits 32 (-7) := by constructor <;> norm_num
    exact .cons (by simpa using ⟨kept 5 (-7) five seven, kept 5 5 five five⟩)
      (.cons (by simpa using kept (-7) 5 seven five) (List.pairwise_singleton ..))
  have read : countsVector.cell .standard countsType none 0 =
      .ok (.map [(.int 5, .int 3), (.int (-7), .int 2)]) := rfl
  have shown : ∃ entries', countsVector.cell .standard countsType (some countsUnified) 0 =
      .ok (.map entries') := ⟨_, rfl⟩
  obtain ⟨entries', shown⟩ := shown
  exact ⟨matching, mapped, apart, _, entries', read, shown,
    ColumnVector.cell_keeps_entries matching mapped apart read shown⟩

end OrcRows
