import OrcRows.Cell.Decode
import OrcRows.Proofs.Cell.Walk

/-!
# Presenting leaf cells while they are read

A leaf cell is read under the type of its column as what is read without a type is walked under it
afterwards. Only a cell of a timestamp looks at the type before there is a value to present: under a
time it is the time of day, which is how a walk treats a moment.
-/

namespace OrcRows

open Outcome

variable {policy : TextPolicy} {category : Category} {unified : UnifiedType}

namespace Value

/-- A leaf that is not a moment. -/
def IsPlain : Value → Prop
  | timestamp _ => False
  | value => value.IsLeaf

/-- Every leaf stays as it is under a time. -/
theorem present_of_time (h : unified.tag = .time) (value : Value) :
    value.present policy category (some unified) = .ok value := by
  cases unified with
  | basic tag =>
    obtain rfl : tag = .time := h
    rfl
  | decimal | array | map | row => cases h

/-- A plain value is presented under any type. -/
theorem IsPlain.underLeaf_eq {value : Value} (h : value.IsPlain) :
    value.underLeaf policy category unified = value.present policy category (some unified) := by
  rw [underLeaf.eq_def]
  split
  case isTrue time =>
    rw [present_of_time time]
    cases value with
    | timestamp => exact h.elim
    | _ => rfl
  case isFalse => rfl

/-- A plain value is a leaf. -/
theorem IsPlain.isLeaf {value : Value} (h : value.IsPlain) : value.IsLeaf := by
  cases value with
  | timestamp => exact h.elim
  | _ => exact h

end Value

/-- The value of an integer cell is plain. -/
theorem isPlain_of_longValue {stored : Int} {value : Value}
    (h : longValue category stored = .ok value) : value.IsPlain := by
  rw [longValue.eq_def] at h
  split at h
  case h_5 =>
    split at h
    · cases h
      trivial
    · cases h
  all_goals
    cases h
    trivial

/-- The value of a cell of bytes is plain. -/
theorem isPlain_of_bytesValue {stored : List UInt8} {value : Value}
    (h : bytesValue policy category stored = .ok value) : value.IsPlain := by
  rw [bytesValue] at h
  split at h
  · cases h
    trivial
  · cases hd : policy.encoding.textOf stored with
    | ok text =>
      rw [hd] at h
      cases h
      trivial
    | error fault =>
      rw [hd] at h
      cases h

/-- A value is a leaf, and it is walked as it is presented while it is read. -/
def LeafCells.IsWalked (cells : LeafCells) (policy : TextPolicy) (category : Category)
    (unified : UnifiedType) (place : Int) (value : Value) : Prop :=
  (cells.value policy category (some unified) place >>= fun found =>
      found.present policy category (some unified)) = value.underLeaf policy category unified ∧
    value.IsLeaf

/-- A plain leaf is walked as it is read. -/
theorem Value.IsPlain.isWalked {value : Value} (h : value.IsPlain) {cells : LeafCells} {place : Int}
    (read : cells.value policy category (some unified) place = .ok value) :
    cells.IsWalked policy category unified place value :=
  ⟨by rw [read, ok_bind, h.underLeaf_eq], h.isLeaf⟩

/-- A leaf that is read without a type is walked as it is read under one. -/
theorem LeafCells.isWalked {cells : LeafCells} {place : Int} {value : Value}
    (read : cells.value policy category none place = .ok value) :
    cells.IsWalked policy category unified place value := by
  cases cells with
  | long values =>
    obtain ⟨stored, _, hv⟩ := bind_eq_ok read
    exact (isPlain_of_longValue hv).isWalked read
  | double values =>
    obtain ⟨stored, _, hv⟩ := bind_eq_ok read
    cases hv
    exact (show Value.IsPlain (.float _) from trivial).isWalked read
  | bytes values =>
    obtain ⟨stored, _, hv⟩ := bind_eq_ok read
    exact (isPlain_of_bytesValue hv).isWalked read
  | decimal values =>
    obtain ⟨stored, _, read'⟩ := bind_eq_ok read
    obtain ⟨found, _, hv⟩ := bind_eq_ok read'
    cases hv
    exact (show Value.IsPlain (.decimal _) from trivial).isWalked read
  | timestamp millis nanos =>
    obtain ⟨milli, hmilli, read'⟩ := bind_eq_ok read
    obtain ⟨nano, hnano, hv⟩ := bind_eq_ok read'
    have hread : (timestamp millis nanos).value policy category (some unified) place =
        timestampValue category (some unified) milli nano := by
      simp only [LeafCells.value, hmilli, hnano, ok_bind]
    rw [timestampValue] at hread hv
    cases hmoment : Timestamp.ofMillisNanos? milli nano with
    | none =>
      rw [hmoment] at hv
      cases hv
    | some moment =>
      simp only [hmoment] at hread hv
      by_cases dated : category = .date
      · rw [if_pos dated] at hread hv
        cases hv
        exact (show Value.IsPlain (.date _) from trivial).isWalked hread
      · rw [if_neg dated] at hread hv
        cases hv
        refine ⟨?_, trivial⟩
        rw [hread, Value.underLeaf.eq_def]
        by_cases timed : unified.tag = .time
        · rw [Option.map_some, if_pos (congrArg some timed), if_pos timed, ok_bind,
            Value.present_of_time timed]
        · rw [Option.map_some, if_neg fun same => timed (Option.some_inj.mp same), if_neg timed,
            ok_bind]

section Leaves

variable {flags : RowFlags} {cells : LeafCells} {declared : NativeType}

/-- A leaf cell is read under a type as it is walked. -/
theorem leafCell_under {row : Int} {value result : Value}
    (read : leafCell policy flags cells declared none row = .ok value)
    (walked : value.under policy declared unified = .ok result) :
    leafCell policy flags cells declared (some unified) row = .ok result := by
  obtain ⟨found, hfound, hv⟩ := bind_eq_ok read
  injection hv with same
  subst same
  obtain ⟨hpresent, hleaf⟩ := LeafCells.isWalked hfound
  rw [leafCell, hpresent, ← hleaf.under_eq, walked]

/-- An element is read under a type as it is walked. -/
theorem elementCell_under {row : Int} {value result : Value}
    (read : elementCell policy flags cells declared none row = .ok value)
    (walked : value.under policy declared unified = .ok result) :
    elementCell policy flags cells declared (some unified) row = .ok result := by
  obtain ⟨null, hnull, read⟩ := bind_eq_ok read
  rw [elementCell, hnull, ok_bind]
  cases null with
  | true =>
    cases read
    rw [Value.under.eq_def] at walked
    exact walked
  | false => exact leafCell_under read walked

/-- Consecutive elements are read under a type as they are walked. -/
theorem readRows_under {first : Int} {count : Nat} {values results : List Value}
    (read : readRows (elementCell policy flags cells declared none) first count = .ok values)
    (walked : Value.underAll policy declared unified values = .ok results) :
    readRows (elementCell policy flags cells declared (some unified)) first count =
      .ok results := by
  induction count generalizing first values results with
  | zero =>
    cases read
    rw [Value.underAll.eq_def] at walked
    exact walked
  | succ count ih =>
    obtain ⟨value, hvalue, read⟩ := bind_eq_ok read
    obtain ⟨rest, hrest, read⟩ := bind_eq_ok read
    cases read
    obtain ⟨result, others, hresult, hothers, rfl⟩ := Value.underAll_cons walked
    rw [readRows, elementCell_under hvalue hresult, ok_bind, ih hrest hothers]
    rfl

/-- The elements of a slice are read under a type as they are walked. -/
theorem elements_under {container : String} {slice : Int × Int} {values results : List Value}
    (read : elements policy container (.leaf flags cells) declared none slice = .ok values)
    (walked : Value.underAll policy declared unified values = .ok results) :
    elements policy container (.leaf flags cells) declared (some unified) slice = .ok results :=
  readRows_under read walked

end Leaves

end OrcRows
