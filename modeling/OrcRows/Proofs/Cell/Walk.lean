import OrcRows.Cell.Presentation
import OrcRows.Proofs.Outcome
import Mathlib.Data.List.Forall2

/-!
# Values presented as a whole

A value that was read without a type can be presented under one afterwards: the value and the type
are walked together, and every leaf is replaced by its presentation at its place. What is missing
stays missing, and lists, maps and records keep their lengths and their order.
-/

namespace OrcRows.Value

/-- A value that is there and has no parts. -/
def IsLeaf : Value → Prop
  | null | list _ | map _ | row _ _ => False
  | _ => True

/-- A leaf value under the type at its place: a moment under a time is its time of day, anything
else is presented. -/
def underLeaf (policy : TextPolicy) (category : Category) (unified : UnifiedType) (value : Value) :
    Outcome Value :=
  if unified.tag = .time then
    match value with
    | timestamp moment => .ok (time moment.time)
    | other => .ok other
  else value.present policy category (some unified)

mutual

/-- A value under a type: the leaves are presented in place, each under the type at its position and
by the category that its column declares. -/
def under (policy : TextPolicy) (declared : NativeType) (unified : UnifiedType) :
    Value → Outcome Value
  | null => .ok null
  | list elements => do
    let element ← Outcome.ofOption .outOfRange declared.children[0]?
    let type ← Outcome.ofOption .illTyped unified.element?
    return list (← underAll policy element type elements)
  | map entries => do
    let key ← Outcome.ofOption .outOfRange declared.children[0]?
    let value ← Outcome.ofOption .outOfRange declared.children[1]?
    let keyType ← Outcome.ofOption .illTyped unified.key?
    let valueType ← Outcome.ofOption .illTyped unified.value?
    return map (← underEntries policy (key, keyType) (value, valueType) entries)
  | row fields tableId => do
    return row (← underFields policy declared.children unified.fieldTypes fields) tableId
  | leaf => leaf.underLeaf policy declared.category unified

/-- Values under one type. -/
def underAll (policy : TextPolicy) (declared : NativeType) (unified : UnifiedType) :
    List Value → Outcome (List Value)
  | [] => .ok []
  | value :: rest => do
    let first ← under policy declared unified value
    return first :: (← underAll policy declared unified rest)

/-- The entries of a map under the types of its keys and its values. -/
def underEntries (policy : TextPolicy) (key value : NativeType × UnifiedType) :
    List (Value × Value) → Outcome (List (Value × Value))
  | [] => .ok []
  | (first, second) :: rest => do
    let presentedKey ← under policy key.1 key.2 first
    let presentedValue ← under policy value.1 value.2 second
    return (presentedKey, presentedValue) :: (← underEntries policy key value rest)

/-- The fields of a record, each under the type at its place. -/
def underFields (policy : TextPolicy) (declared : List NativeType) (types : List UnifiedType) :
    List Value → Outcome (List Value)
  | [] => .ok []
  | field :: rest =>
    match declared, types with
    | native :: declared, type :: types => do
      let first ← under policy native type field
      return first :: (← underFields policy declared types rest)
    | _, _ => .error (.broken .outOfRange)

end

mutual

/-- Two values differ in their leaves at most: what is missing in one is missing in the other, and
lists, maps and records have the same lengths. -/
def SameShape : Value → Value → Prop
  | null, other => other = null
  | list elements, other => ∃ elements', other = list elements' ∧ AllSameShape elements elements'
  | map entries, other => ∃ entries', other = map entries' ∧ EntriesSameShape entries entries'
  | row fields tableId, other =>
    ∃ fields', other = row fields' tableId ∧ AllSameShape fields fields'
  | _, other => other.IsLeaf

/-- Values differ in their leaves at most, one by one. -/
def AllSameShape : List Value → List Value → Prop
  | [], others => others = []
  | value :: rest, others =>
    ∃ value' rest', others = value' :: rest' ∧ SameShape value value' ∧ AllSameShape rest rest'

/-- Entries differ in their leaves at most, one by one. -/
def EntriesSameShape : List (Value × Value) → List (Value × Value) → Prop
  | [], others => others = []
  | (key, value) :: rest, others =>
    ∃ key' value' rest', others = (key', value') :: rest' ∧ SameShape key key' ∧
      SameShape value value' ∧ EntriesSameShape rest rest'

end

/-- The first of several values and the others are walked. -/
theorem underAll_cons {policy : TextPolicy} {declared : NativeType} {unified : UnifiedType}
    {value : Value} {rest results : List Value}
    (walked : underAll policy declared unified (value :: rest) = .ok results) :
    ∃ result others, value.under policy declared unified = .ok result ∧
      underAll policy declared unified rest = .ok others ∧ results = result :: others := by
  rw [underAll.eq_def] at walked
  obtain ⟨result, hresult, walked⟩ := Outcome.bind_eq_ok walked
  obtain ⟨others, hothers, walked⟩ := Outcome.bind_eq_ok walked
  injection walked with same
  exact ⟨result, others, hresult, hothers, same.symm⟩

/-- The first field of a record and the others are walked, each under the type at its place. -/
theorem underFields_cons {policy : TextPolicy} {declared : List NativeType}
    {types : List UnifiedType} {field : Value} {rest results : List Value}
    (walked : underFields policy declared types (field :: rest) = .ok results) :
    ∃ native natives type others result results', declared = native :: natives ∧
      types = type :: others ∧ field.under policy native type = .ok result ∧
      underFields policy natives others rest = .ok results' ∧ results = result :: results' := by
  rw [underFields.eq_def] at walked
  match declared, types with
  | [], _ | _ :: _, [] => cases walked
  | _ :: _, _ :: _ =>
    obtain ⟨result, hresult, walked⟩ := Outcome.bind_eq_ok walked
    obtain ⟨results', hresults, walked⟩ := Outcome.bind_eq_ok walked
    injection walked with same
    exact ⟨_, _, _, _, result, results', rfl, rfl, hresult, hresults, same.symm⟩

section Leaves

variable {policy : TextPolicy} {category : Category} {value result : Value}

/-- The text of a leaf is a leaf. -/
theorem IsLeaf.toText {encoding : Encoding} (h : value.IsLeaf)
    (done : value.toText encoding = .ok result) : result.IsLeaf := by
  cases value with
  | null => exact h.elim
  | bytes stored =>
    obtain ⟨decoded, _, same⟩ := Outcome.map_eq_ok done
    exact same ▸ trivial
  | _ =>
    cases done
    trivial

/-- A leaf with the scale of a type is a leaf. -/
theorem IsLeaf.toScale {precision scale : Option Int} (h : value.IsLeaf)
    (done : value.toScale precision scale = .ok result) : result.IsLeaf := by
  cases value with
  | decimal number =>
    obtain ⟨_, _, done⟩ := Outcome.bind_eq_ok done
    obtain ⟨_, _, done⟩ := Outcome.bind_eq_ok done
    obtain ⟨_, _, done⟩ := Outcome.bind_eq_ok done
    obtain ⟨_, _, done⟩ := Outcome.bind_eq_ok done
    obtain ⟨_, _, done⟩ := Outcome.bind_eq_ok done
    cases done
    trivial
  | _ =>
    cases done
    exact h

/-- A leaf as a floating-point number is a leaf. -/
theorem IsLeaf.toFloating {single : Bool} (h : value.IsLeaf)
    (done : value.toFloating single = .ok result) : result.IsLeaf := by
  cases value with
  | int number =>
    obtain ⟨_, _, done⟩ := Outcome.bind_eq_ok done
    cases done
    trivial
  | _ =>
    cases done
    exact h

/-- A leaf as a moment is a leaf. -/
theorem IsLeaf.toTimestamp (h : value.IsLeaf) : value.toTimestamp.IsLeaf := by
  cases value with
  | date day => trivial
  | _ => exact h

/-- A leaf is presented as a leaf. -/
theorem IsLeaf.present {unified : UnifiedType} (h : value.IsLeaf)
    (done : value.present policy category (some unified) = .ok result) : result.IsLeaf := by
  rw [Value.present.eq_def] at done
  split at done
  · cases done
    exact h
  · exact h.toScale done
  · split at done
    · split at done
      · cases done
        trivial
      · exact h.toText done
    · exact h.toFloating done
    · exact h.toFloating done
    · cases done
      exact h.toTimestamp
    · cases done
      exact h

/-- A leaf is walked to a leaf. -/
theorem IsLeaf.underLeaf {unified : UnifiedType} (h : value.IsLeaf)
    (done : value.underLeaf policy category unified = .ok result) : result.IsLeaf := by
  rw [Value.underLeaf.eq_def] at done
  split at done
  · split at done
    · cases done
      trivial
    · cases done
      exact h
  · exact h.present done

/-- A leaf has no parts to walk. -/
theorem IsLeaf.under_eq (h : value.IsLeaf) (declared : NativeType) (unified : UnifiedType) :
    value.under policy declared unified = value.underLeaf policy declared.category unified := by
  cases value with
  | null | list | map | row => exact h.elim
  | _ => rw [Value.under.eq_def]

/-- All leaves have the same shape. -/
theorem IsLeaf.sameShape (h : value.IsLeaf) (h' : result.IsLeaf) : SameShape value result := by
  cases value with
  | null | list | map | row => exact h.elim
  | _ => exact h'

end Leaves

mutual

/-- A walk keeps the shape of a value. -/
theorem sameShape_of_under {policy : TextPolicy} {declared : NativeType} {unified : UnifiedType}
    (value : Value) {result : Value} (walked : value.under policy declared unified = .ok result) :
    SameShape value result := by
  match value with
  | null =>
    rw [under.eq_def] at walked
    cases walked
    rw [SameShape]
  | list elements =>
    rw [under.eq_def] at walked
    obtain ⟨_, _, walked⟩ := Outcome.bind_eq_ok walked
    obtain ⟨_, _, walked⟩ := Outcome.bind_eq_ok walked
    obtain ⟨results, hresults, walked⟩ := Outcome.bind_eq_ok walked
    cases walked
    rw [SameShape]
    exact ⟨results, rfl, allSameShape_of_underAll elements hresults⟩
  | map entries =>
    rw [under.eq_def] at walked
    obtain ⟨_, _, walked⟩ := Outcome.bind_eq_ok walked
    obtain ⟨_, _, walked⟩ := Outcome.bind_eq_ok walked
    obtain ⟨_, _, walked⟩ := Outcome.bind_eq_ok walked
    obtain ⟨_, _, walked⟩ := Outcome.bind_eq_ok walked
    obtain ⟨results, hresults, walked⟩ := Outcome.bind_eq_ok walked
    cases walked
    rw [SameShape]
    exact ⟨results, rfl, entriesSameShape_of_underEntries entries hresults⟩
  | row fields tableId =>
    rw [under.eq_def] at walked
    obtain ⟨results, hresults, walked⟩ := Outcome.bind_eq_ok walked
    cases walked
    rw [SameShape]
    exact ⟨results, rfl, allSameShape_of_underFields fields hresults⟩
  | bool _ | int _ | text _ | float _ | bytes _ | decimal _ | date _ | time _ | timestamp _
  | union _ _ _ =>
    rw [under.eq_def] at walked
    exact IsLeaf.sameShape (by trivial) (IsLeaf.underLeaf (by trivial) walked)

/-- A walk keeps the shapes of values under one type. -/
theorem allSameShape_of_underAll {policy : TextPolicy} {declared : NativeType}
    {unified : UnifiedType} (values : List Value) {results : List Value}
    (walked : underAll policy declared unified values = .ok results) :
    AllSameShape values results := by
  match values with
  | [] =>
    rw [underAll.eq_def] at walked
    cases walked
    rw [AllSameShape]
  | value :: rest =>
    obtain ⟨result, others, hresult, hothers, rfl⟩ := underAll_cons walked
    rw [AllSameShape]
    exact ⟨result, others, rfl, sameShape_of_under value hresult,
      allSameShape_of_underAll rest hothers⟩

/-- A walk keeps the shapes of the entries of a map, in their order. -/
theorem entriesSameShape_of_underEntries {policy : TextPolicy}
    {key value : NativeType × UnifiedType} (entries : List (Value × Value))
    {results : List (Value × Value)}
    (walked : underEntries policy key value entries = .ok results) :
    EntriesSameShape entries results := by
  match entries with
  | [] =>
    rw [underEntries.eq_def] at walked
    cases walked
    rw [EntriesSameShape]
  | (first, second) :: rest =>
    rw [underEntries.eq_def] at walked
    obtain ⟨first', hfirst, walked⟩ := Outcome.bind_eq_ok walked
    obtain ⟨second', hsecond, walked⟩ := Outcome.bind_eq_ok walked
    obtain ⟨others, hothers, walked⟩ := Outcome.bind_eq_ok walked
    cases walked
    rw [EntriesSameShape]
    exact ⟨first', second', others, rfl, sameShape_of_under first hfirst,
      sameShape_of_under second hsecond, entriesSameShape_of_underEntries rest hothers⟩

/-- A walk keeps the shapes of the fields of a record. -/
theorem allSameShape_of_underFields {policy : TextPolicy} {declared : List NativeType}
    {types : List UnifiedType} (fields : List Value) {results : List Value}
    (walked : underFields policy declared types fields = .ok results) :
    AllSameShape fields results := by
  match fields with
  | [] =>
    rw [underFields.eq_def] at walked
    cases walked
    rw [AllSameShape]
  | field :: rest =>
    obtain ⟨_, _, _, _, result, others, _, _, hresult, hothers, rfl⟩ := underFields_cons walked
    rw [AllSameShape]
    exact ⟨result, others, rfl, sameShape_of_under field hresult,
      allSameShape_of_underFields rest hothers⟩

end

end OrcRows.Value
