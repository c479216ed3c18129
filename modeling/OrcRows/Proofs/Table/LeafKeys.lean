import OrcRows.Proofs.Table.Element

/-!
# Keys of maps

The keys of a map come from one leaf column, so they are of one kind. Among values of one kind to be
the same is to have something in common that only depends on each of them: a magnitude, or the value
itself.
-/

namespace OrcRows

namespace Value

/-- The values that a leaf column of a type can stand for. -/
inductive IsCell : ColumnType → Value → Prop
  | missing {type : ColumnType} : IsCell type .null
  | boolean (value : Bool) : IsCell .boolean (.bool value)
  | integer {signed : Bool} {bits : Nat} (value : Int) : IsCell (.integer signed bits) (.int value)
  | floating {width : FloatWidth} (value : Binary64) : IsCell (.floating width) (.float value)
  | text {large : Bool} (value : String) : IsCell (.text large) (.text value)
  | binary {large : Bool} (value : List UInt8) : IsCell (.binary large) (.bytes value)
  | date (value : Date) : IsCell .date (.date value)
  | timestamp {unit : TimeUnit} (value : Timestamp) : IsCell (.timestamp unit) (.timestamp value)
  | decimal {precision scale : Int} (negative : Bool) (coefficient : Nat) :
      IsCell (.decimal precision scale) (.decimal (.finite negative coefficient (-scale)))

/-- What a key is known by: a floating-point number by its magnitude, a decimal without the sign of
a zero, any other value by itself. -/
def identity : Value → Option (Magnitude ⊕ Value)
  | float number => (float number).magnitude?.map .inl
  | decimal (.finite negative coefficient exponent) =>
    some (.inr (.decimal (.finite (coefficient ≠ 0 && negative) coefficient exponent)))
  | value => some (.inr value)

/-- Numbers are the same if they have one magnitude. -/
theorem same_float_iff (a b : Binary64) :
    same (float a) (float b) = true ↔
      identity (float a) = identity (float b) ∧ (identity (float a)).isSome := by
  rw [same, sameMagnitude, identity, identity]
  · cases (float a).magnitude? with
    | none => simp
    | some left =>
      cases (float b).magnitude? with
      | none => simp
      | some right => simp
  all_goals simp

/-- Decimals of one scale are the same if they agree up to the sign of a zero. -/
theorem same_decimal_iff (negative negative' : Bool) (coefficient coefficient' : Nat)
    (exponent : Int) :
    same (decimal (.finite negative coefficient exponent))
        (decimal (.finite negative' coefficient' exponent)) = true ↔
      identity (decimal (.finite negative coefficient exponent)) =
        identity (decimal (.finite negative' coefficient' exponent)) := by
  simp only [same, sameMagnitude, identity, Decimal.sameNumber, sub_self, Int.toNat_zero,
    Nat.pow_eq, pow_zero, mul_one]
  by_cases hz : coefficient = 0
  · by_cases hz' : coefficient' = 0
    · simp [hz, hz']
    · simp [hz, Ne.symm hz']
  · by_cases hz' : coefficient' = 0
    · simp [hz, hz']
    · simp [hz, hz']
      grind

/-- Keys of one column are the same if they are known by the same. -/
theorem IsCell.same_iff {type : ColumnType} {a b : Value} (ha : IsCell type a)
    (hb : IsCell type b) :
    same a b = true ↔ identity a = identity b ∧ (identity a).isSome := by
  cases ha with
  | missing => cases hb <;> simp [same, sameMagnitude, identity, magnitude?]
  | boolean value =>
    cases hb with
    | missing => simp [same, sameMagnitude, identity, magnitude?]
    | boolean value' =>
      cases value <;> cases value' <;> simp [same, sameMagnitude, identity, magnitude?]
  | floating value =>
    cases hb with
    | missing => simp [same, sameMagnitude, identity, magnitude?]
    | floating value' => exact same_float_iff value value'
  | decimal negative coefficient =>
    cases hb with
    | missing => simp [same, sameMagnitude, identity, magnitude?]
    | decimal negative' coefficient' =>
      rw [same_decimal_iff]
      exact (and_iff_left rfl).symm
  | _ => cases hb <;> simp [same, sameMagnitude, identity, magnitude?]

/-- Values of one leaf column are keys. -/
theorem areKeys_of_isCell {type : ColumnType} {keys : List Value}
    (h : ∀ key ∈ keys, IsCell type key) : AreKeys keys := by
  intro a ha b hb
  have hab := (h a ha).same_iff (h b hb)
  have hba := (h b hb).same_iff (h a ha)
  constructor
  · rw [Bool.eq_iff_iff, hab, hba, eq_comm]
    exact and_congr_right fun same => by rw [same]
  · intro c hc h1 h2
    obtain ⟨hx, hsome⟩ := hab.mp h1
    obtain ⟨hy, _⟩ := ((h b hb).same_iff (h c hc)).mp h2
    exact ((h a ha).same_iff (h c hc)).mpr ⟨hx.trans hy, hsome⟩

end Value

/-- What a leaf column stands for is one of the values that it can stand for. -/
theorem ColumnData.Denotes.isCell {type : ColumnType} {data : ColumnData} {row : Nat}
    {value : Value} (leaf : type.IsLeaf) (denotes : data.Denotes type row value)
    (valid : data.Valid type) :
    Value.IsCell type value := by
  cases denotes with
  | missing absent => exact .missing
  | boolean found => exact .boolean _
  | integer found => exact .integer _
  | floating found => exact .floating _
  | text found => exact .text _
  | binary found => exact .binary _
  | date found => exact .date _
  | timestamp found floor => exact .timestamp _
  | decimal found =>
    cases valid with
    | decimal range =>
      obtain ⟨negative, coefficient, rfl⟩ := range _ (List.mem_of_getElem? found)
      exact .decimal negative coefficient
  | list | map | struct | union => exact leaf.elim

end OrcRows
