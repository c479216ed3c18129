import OrcRows.Proofs.Cell.Inhabits

/-!
# Leaf cells belong to the type of their column

Reading a leaf cell narrows what is stored to a value of the declared category, and presenting it
brings that value under the type that the column was given. `NativeType.Yields` is what stands
between the two steps.
-/

namespace OrcRows

/-- The values that a declared leaf type yields before they are presented. Bytes that begin like an
image may stand for text, and a time of day stands for a timestamp if one is asked for. -/
inductive NativeType.Yields (asTime : Bool) : NativeType → Value → Prop
  | bool {children : List NativeType} {fieldNames : List String} {precision scale : Option Int}
      (value : Bool) : Yields asTime (.node .boolean children fieldNames precision scale)
        (.bool value)
  | whole {category : Category} {children : List NativeType} {fieldNames : List String}
      {precision scale : Option Int} {tag : TypeTag} {bits : Nat} {value : Int}
      (leaf : category.leafTag? = some tag) (width : tag.bits? = some bits)
      (range : FitsBits bits value) :
      Yields asTime (.node category children fieldNames precision scale) (.int value)
  | single {children : List NativeType} {fieldNames : List String} {precision scale : Option Int}
      {value : Binary64} (range : value.IsSingle) :
      Yields asTime (.node .float children fieldNames precision scale) (.float value)
  | double {children : List NativeType} {fieldNames : List String} {precision scale : Option Int}
      (value : Binary64) :
      Yields asTime (.node .double children fieldNames precision scale) (.float value)
  | text {category : Category} {children : List NativeType} {fieldNames : List String}
      {precision scale : Option Int} (leaf : category.leafTag? = some .string) (value : String) :
      Yields asTime (.node category children fieldNames precision scale) (.text value)
  | image {category : Category} {children : List NativeType} {fieldNames : List String}
      {precision scale : Option Int} (leaf : category.leafTag? = some .string)
      (value : List UInt8) :
      Yields asTime (.node category children fieldNames precision scale) (.bytes value)
  | bytes {children : List NativeType} {fieldNames : List String} {precision scale : Option Int}
      (value : List UInt8) :
      Yields asTime (.node .binary children fieldNames precision scale) (.bytes value)
  | date {children : List NativeType} {fieldNames : List String} {precision scale : Option Int}
      (value : Date) : Yields asTime (.node .date children fieldNames precision scale) (.date value)
  | time {children : List NativeType} {fieldNames : List String} {precision scale : Option Int}
      (asked : asTime = true) (value : TimeOfDay) :
      Yields asTime (.node .timestamp children fieldNames precision scale) (.time value)
  | timestamp {children : List NativeType} {fieldNames : List String}
      {precision scale : Option Int} (asked : asTime = false) (value : Timestamp) :
      Yields asTime (.node .timestamp children fieldNames precision scale) (.timestamp value)
  | decimal {children : List NativeType} {fieldNames : List String} {precision scale : Int}
      {value : Decimal} (least : 0 ≤ scale) (most : scale ≤ precision)
      (range : value.Fits precision scale) :
      Yields asTime (.node .decimal children fieldNames (some precision) (some scale))
        (.decimal value)

/-- In an encoding that decodes all bytes all of them are text. -/
theorem Encoding.textOf_eq_ok {encoding : Encoding} (ht : encoding.DecodesAll)
    (bytes : List UInt8) : ∃ text, encoding.textOf bytes = .ok text := by
  rw [textOf]
  split
  case isTrue => exact ⟨_, rfl⟩
  case isFalse some =>
    obtain ⟨chars, hchars⟩ := ht bytes (mt List.isEmpty_iff.mpr some)
    exact ⟨String.ofList chars, by rw [hchars]⟩

section Reading

variable {asTime : Bool} {children : List NativeType} {fieldNames : List String}
  {precision scale : Option Int}

/-- An integer cell yields a value of its category. -/
theorem ends_longValue {category : Category} {value : Int} (kind : category.isWhole = true)
    (range : FitsBits 64 value) :
    Outcome.Ends Fault.IsOutOfCalendar
      (NativeType.Yields asTime (.node category children fieldNames precision scale))
      (longValue category value) := by
  cases category with
  | boolean => exact .bool _
  | tinyint => exact .whole rfl rfl (fitsBits_wrap (by norm_num) value)
  | smallint => exact .whole rfl rfl (fitsBits_wrap (by norm_num) value)
  | int => exact .whole rfl rfl (fitsBits_wrap (by norm_num) value)
  | bigint => exact .whole rfl rfl range
  | date =>
    rw [longValue]
    cases hd : Date.ofEpochDay? value with
    | some date => exact .date date
    | none => exact .inl ⟨.date, value, hd, rfl⟩
  | _ => contradiction

/-- A floating-point cell yields a value of its category. -/
theorem yields_doubleValue {category : Category} (kind : category.isFloating = true)
    (value : Binary64) :
    NativeType.Yields asTime (.node category children fieldNames precision scale)
      (doubleValue category value) := by
  cases category with
  | float => exact .single (Binary64.isSingle_toSingle value)
  | double => exact .double value
  | _ => contradiction

/-- A cell of bytes yields a value of its category. -/
theorem ends_bytesValue {policy : TextPolicy} (ht : policy.encoding.DecodesAll)
    {category : Category} (kind : category.isBytes = true) (value : List UInt8) :
    Outcome.Ends Fault.IsOutOfCalendar
      (NativeType.Yields asTime (.node category children fieldNames precision scale))
      (bytesValue policy category value) := by
  obtain ⟨text, htext⟩ := Encoding.textOf_eq_ok ht value
  by_cases hb : category = .binary
  · rw [bytesValue, if_pos (.inl hb), hb]
    exact .bytes value
  have hleaf : category.leafTag? = some .string := by
    cases category <;> simp_all [Category.isBytes, Category.leafTag?]
  rw [bytesValue, htext]
  split
  case isTrue kept => exact .image hleaf value
  case isFalse plain => exact .text hleaf text

/-- A timestamp cell yields a value of its category. -/
theorem ends_timestampValue {category : Category} (kind : category.isMoment = true)
    (unified : UnifiedType) (millis nanos : Int) :
    Outcome.Ends Fault.IsOutOfCalendar
      (NativeType.Yields (decide (unified.tag = .time))
        (.node category children fieldNames precision scale))
      (timestampValue category (some unified) millis nanos) := by
  rw [timestampValue]
  cases hm : Timestamp.ofMillisNanos? millis nanos with
  | none => exact .inr ⟨category, millis, nanos, hm, rfl⟩
  | some timestamp =>
    cases category with
    | date => exact .date _
    | timestamp =>
      by_cases htime : unified.tag = .time
      · simpa [htime, -decide_eq_true_eq] using
          NativeType.Yields.time (decide_eq_true htime) timestamp.time
      · simpa [htime] using NativeType.Yields.timestamp (decide_eq_false htime) timestamp
    | _ => contradiction

/-- Leaf storage of a declared type yields a value of that type. -/
theorem LeafCells.Holds.ends_value {policy : TextPolicy} (ht : policy.encoding.DecodesAll)
    {cells : LeafCells} {declared : NativeType} {place : Int} (holds : cells.Holds place declared)
    (unified : UnifiedType) :
    Outcome.Ends Fault.IsOutOfCalendar
      (declared.Yields (decide (unified.tag = .time)))
      (cells.value policy declared.category (some unified) place) := by
  cases holds with
  | long kind found range =>
    simp only [value, found]
    exact ends_longValue kind range
  | double kind found =>
    simp only [value, found]
    exact yields_doubleValue kind _
  | bytes kind found =>
    simp only [value, found]
    exact ends_bytesValue ht kind _
  | decimal found least most range =>
    simp only [value, found]
    exact .decimal least most range
  | timestamp kind foundMilli foundNano =>
    simp only [value, foundMilli, foundNano]
    exact ends_timestampValue kind unified _ _

end Reading

section Presenting

variable {policy : TextPolicy} {children : List NativeType} {fieldNames : List String}
  {precision scale : Option Int} {target : Option UnifiedType} {unified : UnifiedType}

/-- Every leaf value but a missing one has a text. -/
theorem present_text (ht : policy.encoding.DecodesAll) (category : Category) (value : Value)
    (hn : value ≠ .null) :
    ∃ shown, value.present policy category (some (.basic .string)) = .ok (.text shown) := by
  cases value with
  | null => exact absurd rfl hn
  | bytes bytes =>
    obtain ⟨text, htext⟩ := Encoding.textOf_eq_ok ht bytes
    exact ⟨text, by simp [Value.present, UnifiedType.tag, Value.toText, htext, Except.map]⟩
  | float number => exact ⟨_, rfl⟩
  | _ => exact ⟨_, rfl⟩

/-- An integer in the range of its category is presented under every type that the category
converts to. -/
theorem present_whole (ht : policy.encoding.DecodesAll) (category : Category) {tag : TypeTag}
    {bits : Nat} {value : Int} (width : tag.bits? = some bits) (range : FitsBits bits value)
    (hc : UnifiedType.canConvert (.basic tag) unified = .ok true) :
    ∃ shown, (Value.int value).present policy category (some unified) = .ok shown ∧
      shown.Inhabits unified := by
  have hbound : bits ≤ 64 := by cases tag <;> simp_all [TypeTag.bits?] <;> omega
  have hwide := range.mono hbound
  obtain ⟨number, hnumber⟩ : ∃ number, Binary64.ofInt? value = some number := by
    apply Option.isSome_iff_exists.mp
    apply Binary64.ofInt?_isSome
    obtain ⟨hl, hu⟩ := hwide
    norm_num at hl hu ⊢
    omega
  have hplain : ∀ kind : TypeTag, ∀ bits', kind.bits? = some bits' →
      (Value.int value).present policy category (some (.basic kind)) = .ok (.int value) := by
    intro kind bits' hk
    cases kind <;> first | rfl | contradiction
  rcases UnifiedType.canConvert_basic hc with rfl | rfl | ⟨wider, rfl, hw⟩
  · exact ⟨_, hplain tag bits width, bits, width, range⟩
  · obtain ⟨shown, hs⟩ := present_text ht category (.int value) (by simp)
    exact ⟨_, hs, trivial⟩
  · rcases TypeTag.widens_bits width hw with rfl | rfl | ⟨bits', hb, hle⟩
    · refine ⟨.float number.toSingle, ?_, Binary64.isSingle_toSingle number⟩
      simp [Value.present, UnifiedType.tag, Value.toFloating, hnumber, pure, Except.pure]
    · refine ⟨.float number, ?_, trivial⟩
      simp [Value.present, UnifiedType.tag, Value.toFloating, hnumber, pure, Except.pure]
    · exact ⟨_, hplain wider bits' hb, bits', hb, range.mono hle⟩

/-- A decimal that fits its declared type is presented under every type that the declared one
converts to. -/
theorem present_decimal (ht : policy.encoding.DecodesAll) {precision scale : Int}
    {value : Decimal} (least : 0 ≤ scale) (most : scale ≤ precision)
    (range : value.Fits precision scale)
    (hc : UnifiedType.canConvert (.decimal (some precision) (some scale)) unified = .ok true)
    (hp : unified.PrecisionsWithin) :
    ∃ shown, (Value.decimal value).present policy .decimal (some unified) = .ok shown ∧
      shown.Inhabits unified := by
  rcases UnifiedType.canConvert_decimal hc with rfl | ⟨precision', scale', rfl, hs, hi⟩
  · obtain ⟨shown, hs⟩ := present_text ht .decimal (.decimal value) (by simp)
    exact ⟨_, hs, trivial⟩
  · cases value with
    | finite negative coefficient exponent =>
      obtain ⟨units, hunits, _, hscaled⟩ := Value.toScale_of_fits range least most hs hi hp
      exact ⟨_, hscaled, rfl, hunits⟩
    | infinite negative => exact range.elim
    | nan negative signaling payload => exact range.elim

/-- A leaf value is presented under the type that its column was given if it is under the column's
own type and under the types that this one widens to: text is all that is left. -/
theorem present_leaf (ht : policy.encoding.DecodesAll) (tag : TypeTag) {category : Category}
    {value : Value} (hc : UnifiedType.canConvert (.basic tag) unified = .ok true)
    (hn : value ≠ .null)
    (own : ∃ shown, value.present policy category (some (.basic tag)) = .ok shown ∧
      shown.Inhabits (.basic tag))
    (wide : ∀ wider, tag.widens wider = true →
      ∃ shown, value.present policy category (some (.basic wider)) = .ok shown ∧
        shown.Inhabits (.basic wider)) :
    ∃ shown, value.present policy category (some unified) = .ok shown ∧
      shown.Inhabits unified := by
  rcases UnifiedType.canConvert_basic hc with rfl | rfl | ⟨wider, rfl, hw⟩
  · exact own
  · obtain ⟨shown, hs⟩ := present_text ht category _ hn
    exact ⟨_, hs, trivial⟩
  · exact wide wider hw

/-- What a declared leaf type yields is presented under the type that it was given, and belongs to
that type then. -/
theorem NativeType.Yields.present (ht : policy.encoding.DecodesAll) {declared : NativeType}
    {value : Value} (yields : declared.Yields (decide (unified.tag = .time)) value)
    (mapped : declared.unify target = .ok unified) (hp : unified.PrecisionsWithin) :
    ∃ shown, value.present policy declared.category (some unified) = .ok shown ∧
      shown.Inhabits unified := by
  cases yields with
  | bool value =>
    refine present_leaf ht .boolean (canConvert_of_unify_leaf rfl mapped) (by simp)
      ⟨_, rfl, trivial⟩ ?_
    intro wider hw
    cases wider <;> contradiction
  | whole leaf width range =>
    exact present_whole ht _ width range (canConvert_of_unify_leaf leaf mapped)
  | single range =>
    refine present_leaf ht .float (canConvert_of_unify_leaf rfl mapped) (by simp) ⟨_, rfl, range⟩ ?_
    intro wider hw
    cases wider <;> first | exact ⟨_, rfl, trivial⟩ | contradiction
  | double value =>
    refine present_leaf ht .double (canConvert_of_unify_leaf rfl mapped) (by simp)
      ⟨_, rfl, trivial⟩ ?_
    intro wider hw
    cases wider <;> contradiction
  | text leaf value =>
    refine present_leaf ht .string (canConvert_of_unify_leaf leaf mapped) (by simp)
      ⟨_, rfl, trivial⟩ ?_
    intro wider hw
    cases wider <;> contradiction
  | image leaf value =>
    obtain ⟨shown, hs⟩ := present_text ht _ (.bytes value) (by simp)
    refine present_leaf ht .string (canConvert_of_unify_leaf leaf mapped) (by simp)
      ⟨_, hs, trivial⟩ ?_
    intro wider hw
    cases wider <;> contradiction
  | bytes value =>
    refine present_leaf ht .bytes (canConvert_of_unify_leaf rfl mapped) (by simp)
      ⟨_, rfl, trivial⟩ ?_
    intro wider hw
    cases wider <;> contradiction
  | date value =>
    refine present_leaf ht .date (canConvert_of_unify_leaf rfl mapped) (by simp)
      ⟨_, rfl, trivial⟩ ?_
    intro wider hw
    cases wider <;> first | exact ⟨_, rfl, trivial⟩ | contradiction
  | time asked value =>
    rcases unify_timestamp mapped with rfl | hc
    · exact ⟨_, rfl, trivial⟩
    · rcases UnifiedType.canConvert_basic hc with rfl | rfl | ⟨wider, rfl, hw⟩
      · contradiction
      · contradiction
      · cases wider <;> contradiction
  | timestamp asked value =>
    rcases unify_timestamp mapped with rfl | hc
    · contradiction
    · refine present_leaf ht .timestamp hc (by simp) ⟨_, rfl, trivial⟩ ?_
      intro wider hw
      cases wider <;> contradiction
  | decimal least most range => exact present_decimal ht least most range (unify_decimal mapped) hp

/-- A leaf cell belongs to the type that its column was given. -/
theorem LeafCells.Holds.ends_leafCell (ht : policy.encoding.DecodesAll) {flags : RowFlags}
    {cells : LeafCells} {declared : NativeType} {row : Int}
    (holds : cells.Holds (flags.index row) declared) (mapped : declared.unify target = .ok unified)
    (hp : unified.PrecisionsWithin) :
    Outcome.Ends Fault.IsOutOfCalendar (Value.Inhabits unified)
      (leafCell policy flags cells declared (some unified) row) := by
  apply (holds.ends_value ht unified).bind
  intro value yields
  obtain ⟨shown, hs, hi⟩ := yields.present ht mapped hp
  rw [hs]
  exact hi

end Presenting

end OrcRows
