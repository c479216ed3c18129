import OrcRows.Proofs.Mapping.Shape

/-!
# Conversion of whole types and requests for leaves

One whole type converts to another if a single walk over both of them says so. A request is granted
leaf by leaf, and composites are put together again. Both accept the same requests: what is asked
for is given, up to the names in rows, exactly if what is given without a request converts to it.
Times and texts in the place of composites are left out, because only one of the two knows of them.
-/

namespace OrcRows

namespace UnifiedType

mutual

/-- A type without the names in its rows. -/
def unnamed : UnifiedType → UnifiedType
  | basic tag => basic tag
  | decimal precision scale => decimal precision scale
  | array element => array element.unnamed
  | map key value => map key.unnamed value.unnamed
  | row fields => row (unnamedFields fields)

/-- Fields without names. -/
def unnamedFields : List (String × UnifiedType) → List (String × UnifiedType)
  | [] => []
  | (_, type) :: rest => ("", type.unnamed) :: unnamedFields rest

end

/-- A leaf has no names to lose. -/
theorem IsLeaf.eq_of_unnamed {own type : UnifiedType} (leaf : own.IsLeaf)
    (h : own.unnamed = type.unnamed) : own = type := by
  cases own with
  | basic tag =>
    cases type with
    | basic _ => exact h
    | _ => contradiction
  | decimal precision scale =>
    cases type with
    | decimal _ _ => exact h
    | _ => contradiction
  | _ => contradiction

/-- Fields without names are the same if their types without names are. -/
theorem unnamedFields_eq_iff {left right : List (String × UnifiedType)} :
    unnamedFields left = unnamedFields right ↔
      (left.map (·.2)).map unnamed = (right.map (·.2)).map unnamed := by
  induction left generalizing right with
  | nil => cases right <;> simp [unnamedFields]
  | cons field rest ih => cases right <;> simp [unnamedFields, ih]

/-- Two questions, the second of which is asked if the first is answered with yes. -/
theorem ok_decide_and {p q : Prop} [Decidable p] [Decidable q] {second : Outcome Bool}
    (h : p → second = .ok (decide q)) :
    (do if ← (.ok (decide p) : Outcome Bool) then second else return false) =
      .ok (decide (p ∧ q)) := by
  rw [Outcome.ok_bind]
  by_cases hp : p
  · rw [if_pos (decide_eq_true hp), h hp, Bool.decide_and, decide_eq_true hp, Bool.true_and]
  · rw [if_neg (by simp [hp]), Bool.decide_and, decide_eq_false hp, Bool.false_and]
    rfl

/-- Arrays convert if their elements do. -/
theorem canConvert_array (source target : UnifiedType) :
    canConvert (.array source) (.array target) = canConvert source target := by
  rw [canConvert.eq_def]
  split
  case isTrue same =>
    rcases same with same | text
    · injection same with same
      rw [same, canConvert_self]
    · contradiction
  case isFalse differ => rfl

/-- Maps convert if their keys and their values do. -/
theorem canConvert_map (key value key' value' : UnifiedType) :
    canConvert (.map key value) (.map key' value') =
      (do if ← canConvert key key' then canConvert value value' else return false) := by
  rw [canConvert.eq_def]
  split
  case isTrue same =>
    rcases same with same | text
    · injection same with sameKey sameValue
      rw [sameKey, sameValue, canConvert_self, canConvert_self]
      rfl
    · contradiction
  case isFalse differ => rfl

/-- Fields convert to themselves. -/
theorem canConvertFields_self (fields : List (String × UnifiedType)) :
    canConvertFields fields fields = .ok true := by
  induction fields with
  | nil => rfl
  | cons field rest ih =>
    simp only [canConvertFields, canConvert_self, Outcome.ok_bind, if_true, ih]

/-- Rows convert if they have as many fields and all of these do. -/
theorem canConvert_row (fields fields' : List (String × UnifiedType)) :
    canConvert (.row fields) (.row fields') =
      if fields.length = fields'.length then canConvertFields fields fields' else .ok false := by
  rw [canConvert.eq_def]
  split
  case isTrue same =>
    rcases same with same | text
    · injection same with same
      rw [same, if_pos rfl, canConvertFields_self]
    · contradiction
  case isFalse differ => rfl

end UnifiedType

namespace NativeType

open UnifiedType (IsNumbered)

mutual

/-- A condition holds of every node that mapping comes to and of the type that stands opposite to
it, as long as there is one. -/
def Facing (condition : NativeType → UnifiedType → Prop) (declared : NativeType)
    (opposite : UnifiedType) : Prop :=
  condition declared opposite ∧
    match declared with
    | node category children _ _ _ =>
      match category, children, opposite with
      | .list, element :: _, .array inner => element.Facing condition inner
      | .map, key :: value :: _, .map keyType valueType =>
        key.Facing condition keyType ∧ value.Facing condition valueType
      | .struct, fields, .row opposites => AllFacing condition fields (opposites.map (·.2))
      | _, _, _ => True

/-- A condition holds of several nodes and of the types that stand opposite to them. -/
def AllFacing (condition : NativeType → UnifiedType → Prop) :
    List NativeType → List UnifiedType → Prop
  | declared :: rest, opposite :: others =>
    declared.Facing condition opposite ∧ AllFacing condition rest others
  | _, _ => True

end

/-- No text stands opposite to a list, a map or a struct. -/
def FacesNoText (declared : NativeType) (opposite : UnifiedType) : Prop :=
  declared.category ∈ [.list, .map, .struct] → opposite.tag ≠ .string

/-- The own type of a leaf has its numbers. -/
def HasNumbers (declared : NativeType) : Prop :=
  ∀ own, declared.leafType? = some own → own.IsNumbered

/-- A request is granted up to the names in rows exactly if a type converts to it. -/
def Agrees (declared : NativeType) (own target : UnifiedType) : Prop :=
  ∃ unified, declared.IsGiven (some target) unified ∧
    UnifiedType.canConvert own target = .ok (decide (unified.unnamed = target.unnamed))

/-- Requests for fields are granted up to the names in rows exactly if the fields convert to as many
of them. -/
def AllAgree (declared : List NativeType) (fields opposites : List (String × UnifiedType)) : Prop :=
  ∃ types, AreGiven declared (opposites.map (·.2)) types ∧ types.length = fields.length ∧
    (fields.length = opposites.length → UnifiedType.canConvertFields fields opposites =
      .ok (decide (types.map (·.unnamed) = (opposites.map (·.2)).map (·.unnamed))))

/-- What is given a leaf type without a request is a leaf of this type. -/
theorem IsGiven.leafType?_of_isLeaf {declared : NativeType} {own : UnifiedType}
    (h : declared.IsGiven none own) (leaf : own.IsLeaf) : declared.leafType? = some own := by
  cases h with
  | time asked => contradiction
  | leaf kind timeless granted =>
    injection granted with same
    exact same ▸ kind
  | list | map | struct => contradiction

/-- A leaf is granted what its own type converts to, unless a time is asked for. -/
theorem agrees_of_leafType? {declared : NativeType} {own target : UnifiedType}
    (kind : declared.leafType? = some own) (numbered : own.IsNumbered)
    (targetNumbered : target.IsNumbered) (timeless : target.tag ≠ .time) :
    declared.Agrees own target := by
  have leaf := isLeaf_of_leafType? kind
  have untimed : declared.category = .timestamp → (some target).map (·.tag) ≠ some .time :=
    fun _ asked => timeless (Option.some_inj.mp asked)
  obtain ⟨granted, hgranted⟩ := leaf.canConvert_isOk numbered targetNumbered
  cases granted with
  | true =>
    refine ⟨target, .leaf kind untimed (UnifiedType.finalType_of_canConvert hgranted), ?_⟩
    rw [hgranted, decide_eq_true rfl]
  | false =>
    have kept : own.finalType (some target) = .ok own := by
      rw [UnifiedType.finalType, hgranted]
      rfl
    have differ : own.unnamed ≠ target.unnamed := by
      intro same
      rw [← leaf.eq_of_unnamed same, UnifiedType.canConvert_self] at hgranted
      exact Bool.noConfusion (Except.ok.inj hgranted)
    refine ⟨own, .leaf kind untimed kept, ?_⟩
    rw [hgranted, decide_eq_false differ]

section Composites

variable {fieldNames : List String} {precision scale : Option Int} {target : UnifiedType}

/-- Arrays are granted if their elements are. -/
theorem agrees_list {element : NativeType} {rest : List NativeType} {type : UnifiedType}
    (given : element.IsGiven none type) (allowed : type.tag.isElementTag = true)
    (untext : target.tag ≠ .string)
    (parts : ∀ inner, target = .array inner → element.Agrees type inner) :
    (node .list (element :: rest) fieldNames precision scale).Agrees (.array type) target := by
  cases target with
  | array inner =>
    obtain ⟨unified, granted, converts⟩ := parts inner rfl
    -- An element that is given without a request is a leaf, so the request keeps to leaves.
    have permitted := UnifiedType.mem_elementTypes_iff.mpr allowed
    have kind := given.leafType?_of_isLeaf (UnifiedType.isLeaf_of_mem_elementTypes permitted)
    have allowed' := UnifiedType.mem_elementTypes_iff.mp (granted.mem_elementTypes kind permitted)
    refine ⟨_, .list granted allowed', ?_⟩
    rw [UnifiedType.canConvert_array, converts]
    simp only [UnifiedType.unnamed, UnifiedType.array.injEq]
  | _ =>
    refine ⟨_, .list given allowed, ?_⟩
    rw [UnifiedType.canConvert.eq_def, if_neg (not_or.mpr ⟨by simp, untext⟩)]
    rfl

/-- Maps are granted if their keys and their values are. -/
theorem agrees_map {key value : NativeType} {rest : List NativeType}
    {keyType valueType : UnifiedType} (givenKey : key.IsGiven none keyType)
    (givenValue : value.IsGiven none valueType) (untext : target.tag ≠ .string)
    (parts : ∀ key' value', target = .map key' value' →
      key.Agrees keyType key' ∧ value.Agrees valueType value') :
    (node .map (key :: value :: rest) fieldNames precision scale).Agrees
      (.map keyType valueType) target := by
  cases target with
  | map key' value' =>
    obtain ⟨⟨newKey, grantedKey, convertsKey⟩, newValue, grantedValue, convertsValue⟩ :=
      parts key' value' rfl
    refine ⟨_, .map grantedKey grantedValue, ?_⟩
    rw [UnifiedType.canConvert_map, convertsKey]
    simp only [UnifiedType.unnamed, UnifiedType.map.injEq]
    exact UnifiedType.ok_decide_and fun _ => convertsValue
  | _ =>
    refine ⟨_, .map givenKey givenValue, ?_⟩
    rw [UnifiedType.canConvert.eq_def, if_neg (not_or.mpr ⟨by simp, untext⟩)]
    rfl

/-- Rows are granted if they have as many fields and these are. -/
theorem agrees_struct {children : List NativeType} {owns : List UnifiedType}
    (given : AreGiven children [] owns) (covered : fieldNames.length = owns.length)
    (distinct : fieldNames.Nodup) (untext : target.tag ≠ .string)
    (parts : ∀ opposites, target = .row opposites →
      AllAgree children (fieldNames.zip owns) opposites) :
    (node .struct children fieldNames precision scale).Agrees (.row (fieldNames.zip owns))
      target := by
  have hzip : (fieldNames.zip owns).length = fieldNames.length := by
    rw [List.length_zip, covered, Nat.min_self]
  cases target with
  | row opposites =>
    obtain ⟨types, granted, hlength, converts⟩ := parts opposites rfl
    have covered' : fieldNames.length = types.length := (hlength.trans hzip).symm
    refine ⟨_, .struct granted covered' distinct, ?_⟩
    rw [UnifiedType.canConvert_row]
    simp only [UnifiedType.unnamed, UnifiedType.row.injEq, UnifiedType.unnamedFields_eq_iff]
    rw [List.map_snd_zip (Nat.le_of_eq covered'.symm)]
    by_cases many : (fieldNames.zip owns).length = opposites.length
    · rw [if_pos many, converts many]
    · rw [if_neg many, decide_eq_false]
      intro same
      have hsame := congrArg List.length same
      simp only [List.length_map] at hsame
      exact many (hlength.symm.trans hsame)
  | _ =>
    refine ⟨_, .struct given covered distinct, ?_⟩
    rw [UnifiedType.canConvert.eq_def, if_neg (not_or.mpr ⟨by simp, untext⟩)]
    rfl

end Composites

mutual

/-- What is given without a request converts to a type exactly if the type is given on request. -/
theorem IsGiven.agrees {declared : NativeType} {asked : Option UnifiedType}
    {own target : UnifiedType} (h : declared.IsGiven asked own) (unasked : asked = none)
    (numbered : declared.Throughout HasNumbers) (targetNumbered : target.Throughout IsNumbered)
    (timeless : target.Throughout (·.tag ≠ .time)) (textless : declared.Facing FacesNoText target) :
    declared.Agrees own target := by
  rw [Throughout.eq_def] at numbered
  rw [Facing.eq_def] at textless
  cases h with
  | time given =>
    rw [unasked] at given
    contradiction
  | leaf kind _ granted =>
    rw [unasked] at granted
    injection granted with same
    have kind := same ▸ kind
    exact agrees_of_leafType? kind (numbered.1 _ kind) targetNumbered.here timeless.here
  | list given allowed =>
    have unaskedElement : asked.bind (·.element?) = none := by rw [unasked]; rfl
    refine agrees_list (unaskedElement ▸ given) allowed (textless.1 (by simp [category])) ?_
    rintro inner rfl
    exact given.agrees unaskedElement numbered.2 targetNumbered.2 timeless.2 textless.2
  | map givenKey givenValue =>
    have unaskedKey : asked.bind (·.key?) = none := by rw [unasked]; rfl
    have unaskedValue : asked.bind (·.value?) = none := by rw [unasked]; rfl
    refine agrees_map (unaskedKey ▸ givenKey) (unaskedValue ▸ givenValue)
      (textless.1 (by simp [category])) ?_
    rintro key' value' rfl
    exact ⟨givenKey.agrees unaskedKey numbered.2.1 targetNumbered.2.1 timeless.2.1 textless.2.1,
      givenValue.agrees unaskedValue numbered.2.2 targetNumbered.2.2 timeless.2.2 textless.2.2⟩
  | struct given covered distinct =>
    have unaskedFields : (asked.map (·.fieldTypes)).getD [] = [] := by rw [unasked]; rfl
    refine agrees_struct (unaskedFields ▸ given) covered distinct
      (textless.1 (by simp [category])) ?_
    rintro opposites rfl
    exact given.allAgree unaskedFields (List.map_snd_zip (Nat.le_of_eq covered.symm)) numbered.2
      targetNumbered.2 timeless.2 textless.2

/-- Fields that are given without requests convert to as many types exactly if these are given on
request. -/
theorem AreGiven.allAgree {declared : List NativeType} {targets owns : List UnifiedType}
    {fields opposites : List (String × UnifiedType)} (h : AreGiven declared targets owns)
    (unasked : targets = []) (same : fields.map (·.2) = owns)
    (numbered : AllThroughout HasNumbers declared)
    (targetNumbered : UnifiedType.FieldsThroughout IsNumbered opposites)
    (timeless : UnifiedType.FieldsThroughout (·.tag ≠ .time) opposites)
    (textless : AllFacing FacesNoText declared (opposites.map (·.2))) :
    AllAgree declared fields opposites := by
  cases h with
  | nil =>
    rw [List.map_eq_nil_iff] at same
    refine ⟨[], .nil, by rw [same]; rfl, fun many => ?_⟩
    rw [same, List.length_nil, eq_comm, List.length_eq_zero_iff] at many
    rw [same, many]
    rfl
  | cons first others =>
    match fields, opposites with
    | (_, own) :: fields, [] =>
      have free : AreGiven _ [] _ := unasked ▸ AreGiven.cons first others
      exact ⟨_, free, by rw [← same, List.length_map], nofun⟩
    | (_, own) :: fields, (_, opposite) :: opposites =>
      obtain ⟨(sameType : own = _), sameTypes⟩ := List.cons_eq_cons.mp same
      obtain ⟨type, granted, converts⟩ := first.agrees (by rw [unasked]; rfl) numbered.1
        targetNumbered.1 timeless.1 textless.1
      obtain ⟨types, grantedRest, hlength, convertRest⟩ := others.allAgree (by rw [unasked]; rfl)
        sameTypes numbered.2 targetNumbered.2 timeless.2 textless.2
      refine ⟨type :: types, .cons granted grantedRest, congrArg (· + 1) hlength, fun many => ?_⟩
      rw [UnifiedType.canConvertFields, sameType, converts]
      simp only [List.map_cons, List.cons_eq_cons]
      exact UnifiedType.ok_decide_and fun _ => convertRest (Nat.succ.inj many)

end

/-- What is asked for is given, up to the names in rows, exactly if what is given without a request
converts to it: a request that has no time, and no text in the place of a list, a map or a struct.
Something is given in any case, and its rows have the names of the structs. -/
theorem unify_grants_iff_canConvert {declared : NativeType} {own target : UnifiedType}
    (given : declared.unify none = .ok own) (numbered : declared.Throughout HasNumbers)
    (targetNumbered : target.Throughout IsNumbered) (timeless : target.Throughout (·.tag ≠ .time))
    (textless : declared.Facing FacesNoText target) :
    ∃ unified, declared.unify (some target) = .ok unified ∧ declared.HasShape unified ∧
      UnifiedType.canConvert own target = .ok (decide (unified.unnamed = target.unnamed)) := by
  obtain ⟨unified, granted, converts⟩ :=
    (isGiven_of_unify given).agrees rfl numbered targetNumbered timeless textless
  exact ⟨unified, granted.unify_eq_ok, granted.hasShape, converts⟩

/-- A file of stations: where they are, the levels that were measured and the latest toll. -/
def stations : NativeType :=
  .struct [("place", .struct [("x", .primitive .float), ("y", .primitive .float)]),
    ("levels", .list (.primitive .smallint)), ("toll", .decimal (some 10) (some 2))]

/-- What stations are given without a request. -/
def stationsOwn : UnifiedType :=
  .row [("place", .row [("x", .basic .float), ("y", .basic .float)]),
    ("levels", .array (.basic .smallint)), ("toll", .decimal (some 10) (some 2))]

/-- What stations may be asked to be: wider numbers under other names. -/
def stationsAsked : UnifiedType :=
  .row [("at", .row [("east", .basic .double), ("north", .basic .float)]),
    ("marks", .array (.basic .string)), ("price", .decimal (some 12) (some 4))]

/-- Stations convert to wider numbers and are given them, under their own names. -/
theorem unify_grants_iff_canConvert_stations :
    UnifiedType.canConvert stationsOwn stationsAsked = .ok true ∧
      ∃ unified, stations.unify (some stationsAsked) = .ok unified ∧ stations.HasShape unified ∧
        UnifiedType.canConvert stationsOwn stationsAsked =
          .ok (decide (unified.unnamed = stationsAsked.unnamed)) := by
  have given : stations.unify none = .ok stationsOwn := rfl
  have numbered : stations.Throughout HasNumbers := by
    simp [stations, struct, list, decimal, primitive, Throughout, AllThroughout, HasNumbers,
      leafType?, Category.leafTag?, IsNumbered]
  have targetNumbered : stationsAsked.Throughout IsNumbered := by
    simp [stationsAsked, UnifiedType.Throughout, UnifiedType.FieldsThroughout, IsNumbered]
  have timeless : stationsAsked.Throughout (·.tag ≠ .time) := by
    simp [stationsAsked, UnifiedType.Throughout, UnifiedType.FieldsThroughout, UnifiedType.tag]
  have textless : stations.Facing FacesNoText stationsAsked := by
    simp [stations, stationsAsked, struct, list, decimal, primitive, Facing, AllFacing,
      FacesNoText, category, UnifiedType.tag]
  exact ⟨rfl, unify_grants_iff_canConvert given numbered targetNumbered timeless textless⟩

end NativeType

end OrcRows
