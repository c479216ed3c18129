import OrcRows.Proofs.Mapping.Conversion

/-!
# Conversion orders types

Whether a type converts to another is decided by a walk over both. `UnifiedType.ConvertsTo` lists
the ways in which the answer can be yes, one constructor for each. Read off this list, conversion is
reflexive and transitive, and two types convert to each other exactly if they are the same but for
the names in their rows.
-/

namespace OrcRows

namespace TypeTag

variable {first second third : TypeTag}

/-- Text widens to nothing. -/
theorem widens_string : string.widens second = false := by
  cases second <;> rfl

/-- What is widened twice is widened. -/
theorem widens_trans (h : first.widens second = true) (h' : second.widens third = true) :
    first.widens third = true := by
  -- Only the tags that the first one widens to are tried against the third.
  cases first <;> cases second <;> first
    | contradiction
    | cases third <;> first | rfl | contradiction

/-- What has been widened is not widened back. -/
theorem not_widens_of_widens (h : first.widens second = true) : second.widens first = false := by
  cases first <;> cases second <;> first | rfl | contradiction

end TypeTag

namespace UnifiedType

mutual

/-- The ways in which a type converts to another. -/
inductive ConvertsTo : UnifiedType → UnifiedType → Prop
  /-- A type converts to itself. -/
  | refl (type : UnifiedType) : ConvertsTo type type
  /-- Any type converts to text. -/
  | text (source : UnifiedType) : ConvertsTo source (.basic .string)
  /-- Types without parts convert to wider ones. -/
  | widen {source target : TypeTag} (wider : source.widens target = true) :
      ConvertsTo (.basic source) (.basic target)
  /-- Decimal types convert to those with room for their integer digits and their scale. -/
  | decimal {precision scale precision' scale' : Int} (finer : scale ≤ scale')
      (longer : precision - scale ≤ precision' - scale') :
      ConvertsTo (.decimal (some precision) (some scale)) (.decimal (some precision') (some scale'))
  /-- Arrays convert if their elements do. -/
  | array {source target : UnifiedType} (element : ConvertsTo source target) :
      ConvertsTo (.array source) (.array target)
  /-- Maps convert if their keys and their values do. -/
  | map {key value key' value' : UnifiedType} (keys : ConvertsTo key key')
      (values : ConvertsTo value value') : ConvertsTo (.map key value) (.map key' value')
  /-- Rows convert if they have as many fields and all of these do. -/
  | row {source target : List (String × UnifiedType)} (fields : FieldsConvertTo source target) :
      ConvertsTo (.row source) (.row target)

/-- Fields convert to as many others, each to the one at its place. -/
inductive FieldsConvertTo : List (String × UnifiedType) → List (String × UnifiedType) → Prop
  | nil : FieldsConvertTo [] []
  | cons {name name' : String} {source target : UnifiedType}
      {rest others : List (String × UnifiedType)} (first : ConvertsTo source target)
      (fields : FieldsConvertTo rest others) :
      FieldsConvertTo ((name, source) :: rest) ((name', target) :: others)

end

/-- Two questions, the second of which is asked if the first is answered with yes, are both answered
with yes if the whole is. -/
theorem both_of_ok {first second : Outcome Bool}
    (h : (do if ← first then second else return false) = .ok true) :
    first = .ok true ∧ second = .ok true := by
  obtain ⟨answer, hfirst, h⟩ := Outcome.bind_eq_ok h
  cases answer with
  | true => exact ⟨hfirst, h⟩
  | false => exact Bool.noConfusion (Except.ok.inj h)

/-- Decimal types that widen have their numbers. -/
theorem convertsTo_of_decimalWidens {precision scale precision' scale' : Option Int}
    (h : decimalWidens precision scale precision' scale' = .ok true) :
    ConvertsTo (.decimal precision scale) (.decimal precision' scale') := by
  rw [decimalWidens.eq_def] at h
  split at h
  case h_1 =>
    split at h
    case isTrue finer =>
      split at h
      case h_1 => exact .decimal finer (of_decide_eq_true (Except.ok.inj h))
      case h_2 => contradiction
    case isFalse coarser => exact Bool.noConfusion (Except.ok.inj h)
  case h_2 => contradiction

mutual

/-- Conversion that is granted is listed. -/
theorem convertsTo_of_canConvert {source target : UnifiedType}
    (h : canConvert source target = .ok true) : ConvertsTo source target := by
  rw [canConvert.eq_def] at h
  split at h
  case isTrue same =>
    rcases same with rfl | text
    · exact .refl source
    · exact eq_text_of_tag text ▸ .text source
  case isFalse differ =>
    split at h
    · exact .widen (Except.ok.inj h)
    · exact convertsTo_of_decimalWidens h
    · exact .array (convertsTo_of_canConvert h)
    · obtain ⟨keys, values⟩ := both_of_ok h
      exact .map (convertsTo_of_canConvert keys) (convertsTo_of_canConvert values)
    · split at h
      case isTrue many => exact .row (fieldsConvertTo_of_canConvertFields many h)
      case isFalse fewer => exact Bool.noConfusion (Except.ok.inj h)
    · exact Bool.noConfusion (Except.ok.inj h)

/-- Conversion of as many fields that is granted is listed. -/
theorem fieldsConvertTo_of_canConvertFields {source target : List (String × UnifiedType)}
    (many : source.length = target.length) (h : canConvertFields source target = .ok true) :
    FieldsConvertTo source target := by
  match source, target with
  | [], [] => exact .nil
  | (_, type) :: rest, (_, type') :: others =>
    obtain ⟨first, others⟩ := both_of_ok h
    exact .cons (convertsTo_of_canConvert first)
      (fieldsConvertTo_of_canConvertFields (Nat.succ.inj many) others)

end

mutual

/-- Conversion that is listed is granted. -/
theorem ConvertsTo.canConvert_eq {source target : UnifiedType} (h : ConvertsTo source target) :
    canConvert source target = .ok true := by
  cases h with
  | refl => exact canConvert_self source
  | text => rw [canConvert.eq_def, if_pos (.inr rfl)]
  | widen wider =>
    rw [canConvert.eq_def]
    split
    · rfl
    · exact congrArg Except.ok wider
  | decimal finer longer =>
    rw [canConvert.eq_def]
    split
    · rfl
    · simp only [decimalWidens, if_pos finer, decide_eq_true longer]
  | array element => rw [canConvert_array, element.canConvert_eq]
  | map keys values =>
    rw [canConvert_map, keys.canConvert_eq, Outcome.ok_bind, if_pos rfl, values.canConvert_eq]
  | row fields =>
    obtain ⟨many, granted⟩ := fields.canConvertFields_eq
    rw [canConvert_row, if_pos many, granted]

/-- Fields whose conversion is listed are as many, and their conversion is granted. -/
theorem FieldsConvertTo.canConvertFields_eq {source target : List (String × UnifiedType)}
    (h : FieldsConvertTo source target) :
    source.length = target.length ∧ canConvertFields source target = .ok true := by
  cases h with
  | nil => exact ⟨rfl, rfl⟩
  | cons first fields =>
    obtain ⟨many, granted⟩ := fields.canConvertFields_eq
    refine ⟨congrArg (· + 1) many, ?_⟩
    rw [canConvertFields, first.canConvert_eq, Outcome.ok_bind, if_pos rfl, granted]

end

/-- Conversion is granted exactly where it is listed. -/
theorem canConvert_eq_ok_iff {source target : UnifiedType} :
    canConvert source target = .ok true ↔ ConvertsTo source target :=
  ⟨convertsTo_of_canConvert, ConvertsTo.canConvert_eq⟩

/-- Text converts to text only. -/
theorem ConvertsTo.eq_of_text {target : UnifiedType} (h : ConvertsTo (.basic .string) target) :
    target = .basic .string := by
  cases h with
  | refl | text => rfl
  | widen wider =>
    rw [TypeTag.widens_string] at wider
    contradiction

mutual

/-- What is converted twice is converted. -/
theorem ConvertsTo.trans {first second third : UnifiedType} (h : ConvertsTo first second)
    (h' : ConvertsTo second third) : ConvertsTo first third := by
  -- By induction on the first conversion; the type in the middle leaves few ways for the second.
  cases h with
  | refl => exact h'
  | text => exact h'.eq_of_text ▸ .text first
  | widen wider =>
    cases h' with
    | refl => exact .widen wider
    | text => exact .text _
    | widen wider' => exact .widen (TypeTag.widens_trans wider wider')
  | decimal finer longer =>
    cases h' with
    | refl => exact .decimal finer longer
    | text => exact .text _
    | decimal finer' longer' => exact .decimal (by omega) (by omega)
  | array element =>
    cases h' with
    | refl => exact .array element
    | text => exact .text _
    | array element' => exact .array (element.trans element')
  | map keys values =>
    cases h' with
    | refl => exact .map keys values
    | text => exact .text _
    | map keys' values' => exact .map (keys.trans keys') (values.trans values')
  | row fields =>
    cases h' with
    | refl => exact .row fields
    | text => exact .text _
    | row fields' => exact .row (fields.trans fields')

/-- Fields that are converted twice are converted. -/
theorem FieldsConvertTo.trans {first second third : List (String × UnifiedType)}
    (h : FieldsConvertTo first second) (h' : FieldsConvertTo second third) :
    FieldsConvertTo first third := by
  cases h with
  | nil => exact h'
  | cons head rest =>
    cases h' with
    | cons head' rest' => exact .cons (head.trans head') (rest.trans rest')

end

mutual

/-- Types that convert to each other are the same but for the names in rows. -/
theorem ConvertsTo.unnamed_eq {first second : UnifiedType} (h : ConvertsTo first second)
    (h' : ConvertsTo second first) : first.unnamed = second.unnamed := by
  cases h with
  | refl => rfl
  | text => rw [h'.eq_of_text]
  | widen wider =>
    cases h' with
    | refl => rfl
    | text =>
      rw [TypeTag.widens_string] at wider
      contradiction
    | widen back =>
      rw [TypeTag.not_widens_of_widens wider] at back
      contradiction
  | @decimal precision scale precision' scale' finer longer =>
    cases h' with
    | refl => rfl
    | decimal coarser shorter =>
      have sameScale : scale = scale' := by omega
      have samePrecision : precision = precision' := by omega
      rw [sameScale, samePrecision]
  | array element =>
    cases h' with
    | refl => rfl
    | array element' => simp only [unnamed, element.unnamed_eq element']
  | map keys values =>
    cases h' with
    | refl => rfl
    | map keys' values' =>
      simp only [unnamed, keys.unnamed_eq keys', values.unnamed_eq values']
  | row fields =>
    cases h' with
    | refl => rfl
    | row fields' => simp only [unnamed, fields.unnamedFields_eq fields']

/-- Fields that convert to each other are the same but for the names. -/
theorem FieldsConvertTo.unnamedFields_eq {first second : List (String × UnifiedType)}
    (h : FieldsConvertTo first second) (h' : FieldsConvertTo second first) :
    unnamedFields first = unnamedFields second := by
  cases h with
  | nil => rfl
  | cons head rest =>
    cases h' with
    | cons head' rest' =>
      simp only [unnamedFields, head.unnamed_eq head', rest.unnamedFields_eq rest']

end

mutual

/-- The names in rows do not matter for conversion. -/
theorem convertsTo_of_unnamed_eq {first second : UnifiedType}
    (h : first.unnamed = second.unnamed) : ConvertsTo first second := by
  match first, second with
  | basic tag, basic _ =>
    injection h with same
    exact same ▸ .refl _
  | decimal precision scale, decimal _ _ =>
    injection h with samePrecision sameScale
    exact samePrecision ▸ sameScale ▸ .refl _
  | array element, array element' =>
    injection h with same
    exact .array (convertsTo_of_unnamed_eq same)
  | map key value, map key' value' =>
    injection h with sameKey sameValue
    exact .map (convertsTo_of_unnamed_eq sameKey) (convertsTo_of_unnamed_eq sameValue)
  | row fields, row fields' =>
    injection h with same
    exact .row (fieldsConvertTo_of_unnamedFields_eq same)

/-- The names of fields do not matter for conversion. -/
theorem fieldsConvertTo_of_unnamedFields_eq {first second : List (String × UnifiedType)}
    (h : unnamedFields first = unnamedFields second) : FieldsConvertTo first second := by
  match first, second with
  | [], [] => exact .nil
  | (_, type) :: rest, (_, type') :: others =>
    obtain ⟨same, sameRest⟩ := List.cons_eq_cons.mp h
    exact .cons (convertsTo_of_unnamed_eq (Prod.mk.inj same).2)
      (fieldsConvertTo_of_unnamedFields_eq sameRest)

end

/-- Conversion orders types: every type converts to itself, what converts in two steps converts at
once, and two types convert to each other exactly if they are the same but for the names in rows. -/
theorem canConvert_order :
    (∀ type, canConvert type type = .ok true) ∧
    (∀ first second third, canConvert first second = .ok true →
      canConvert second third = .ok true → canConvert first third = .ok true) ∧
    ∀ first second, (canConvert first second = .ok true ∧ canConvert second first = .ok true) ↔
      first.unnamed = second.unnamed := by
  simp only [canConvert_eq_ok_iff]
  refine ⟨.refl, fun _ _ _ h h' => h.trans h', fun first second => ⟨?_, fun same => ?_⟩⟩
  · rintro ⟨there, back⟩
    exact there.unnamed_eq back
  · exact ⟨convertsTo_of_unnamed_eq same, convertsTo_of_unnamed_eq same.symm⟩

/-- Shares of whole numbers. -/
def wholeShares : UnifiedType :=
  .row [("a", .map (.basic .int) (.decimal (some 6) (some 2))), ("b", .array (.basic .date))]

/-- Shares of wider numbers. -/
def widerShares : UnifiedType :=
  .row [("a", .map (.basic .bigint) (.decimal (some 9) (some 4))),
    ("b", .array (.basic .timestamp))]

/-- Shares of floating-point numbers, with texts instead of dates and under other names. -/
def floatingShares : UnifiedType :=
  .row [("c", .map (.basic .double) (.decimal (some 9) (some 4))), ("d", .array (.basic .string))]

/-- Shares convert step by step and at once, and not back. -/
theorem canConvert_order_shares :
    (canConvert wholeShares widerShares = .ok true ∧
      canConvert widerShares floatingShares = .ok true) ∧
    canConvert wholeShares floatingShares = .ok true ∧
    canConvert floatingShares widerShares ≠ .ok true := by
  have wider : canConvert wholeShares widerShares = .ok true := rfl
  have floating : canConvert widerShares floatingShares = .ok true := rfl
  refine ⟨⟨wider, floating⟩, canConvert_order.2.1 _ _ _ wider floating, fun back => ?_⟩
  have same := (canConvert_order.2.2 _ _).mp ⟨floating, back⟩
  simp [widerShares, floatingShares, unnamed, unnamedFields] at same

end UnifiedType

end OrcRows
