import OrcRows.Frame
import OrcRows.Proofs.Cell.Agreement

/-!
# Values as entries of a column

`Value.EntersAs` says what a value of a type becomes in a column of a frame: what is missing stays
missing, a row becomes the record of its fields under exactly their names, a map the list of the
records of its keys and values, and any other value stays as it is. Different values of a type
become different entries, whether values are compared by their data or by what they denote.
-/

namespace OrcRows

namespace UnifiedType

mutual

/-- In every row type inside a type no name occurs twice, as in a schema. -/
def NamesDistinct : UnifiedType → Prop
  | array element => element.NamesDistinct
  | map key value => key.NamesDistinct ∧ value.NamesDistinct
  | row fields => (fields.map (·.1)).Nodup ∧ FieldNamesDistinct fields
  | _ => True

/-- In every row type inside the types of fields no name occurs twice. -/
def FieldNamesDistinct : List (String × UnifiedType) → Prop
  | [] => True
  | (_, type) :: rest => type.NamesDistinct ∧ FieldNamesDistinct rest

end

end UnifiedType

namespace Value

mutual

/-- What a value of a type enters a column as. -/
inductive EntersAs : UnifiedType → Value → Value → Prop
  | missing {type : UnifiedType} : EntersAs type null null
  | row {fields : List (String × UnifiedType)} {values : List Value}
      {entries : List (Value × Value)} (all : FieldsEnterAs fields values entries) :
      EntersAs (.row fields) (row values none) (map entries)
  | map {key value : UnifiedType} {entries : List (Value × Value)} {records : List Value}
      (all : PairsEnterAs key value entries records) :
      EntersAs (.map key value) (map entries) (list records)
  | plain {type : UnifiedType} {value : Value} (noRow : ∀ fields, type ≠ .row fields)
      (noMap : ∀ key value, type ≠ .map key value) : EntersAs type value value

/-- Fields enter a record in order, each under its name. -/
inductive FieldsEnterAs :
    List (String × UnifiedType) → List Value → List (Value × Value) → Prop
  | nil : FieldsEnterAs [] [] []
  | cons {name : String} {type : UnifiedType} {fields : List (String × UnifiedType)}
      {value entry : Value} {values : List Value} {entries : List (Value × Value)}
      (here : EntersAs type value entry) (later : FieldsEnterAs fields values entries) :
      FieldsEnterAs ((name, type) :: fields) (value :: values) ((text name, entry) :: entries)

/-- Keys and values enter a list in order, each pair as a record. -/
inductive PairsEnterAs : UnifiedType → UnifiedType → List (Value × Value) → List Value → Prop
  | nil {key value : UnifiedType} : PairsEnterAs key value [] []
  | cons {key value : UnifiedType} {a b k v : Value} {entries : List (Value × Value)}
      {records : List Value} (keyed : EntersAs key a k) (valued : EntersAs value b v)
      (later : PairsEnterAs key value entries records) :
      PairsEnterAs key value ((a, b) :: entries)
        (map [(text "key", k), (text "value", v)] :: records)

end

/-- A missing value stays missing under every type. -/
theorem columnar_null (type : UnifiedType) : columnar type null = null := by
  cases type <;> rfl

/-- Pairs enter as records if their keys and values do. -/
theorem pairsEnterAs_map {key value : UnifiedType} {entries : List (Value × Value)}
    {f g : Value → Value} (keyed : ∀ entry ∈ entries, EntersAs key entry.1 (f entry.1))
    (valued : ∀ entry ∈ entries, EntersAs value entry.2 (g entry.2)) :
    PairsEnterAs key value entries (entries.map fun entry => keyValue (f entry.1) (g entry.2)) := by
  induction entries with
  | nil => exact .nil
  | cons entry rest ih =>
    obtain ⟨k, ks⟩ := List.forall_mem_cons.mp keyed
    obtain ⟨v, vs⟩ := List.forall_mem_cons.mp valued
    exact .cons k v (ih ks vs)

mutual

/-- A value that belongs to a type, or is missing, enters a column in the form that a frame holds. -/
theorem entersAs_columnar : ∀ (type : UnifiedType) {value : Value}, value.IsOf type →
    EntersAs type value (columnar type value)
  | type, null, _ => by
    rw [columnar_null type]
    exact .missing
  | .basic tag, value, _ => .plain nofun nofun
  | .decimal precision scale, value, _ => .plain nofun nofun
  | .array element, value, _ => .plain nofun nofun
  | .map key value, map entries, h => by
    obtain ⟨held, _⟩ := h.resolve_left nofun
    exact .map (pairsEnterAs_map (fun entry member => entersAs_columnar key (held entry member).1)
      fun entry member => entersAs_columnar value (held entry member).2)
  | .row fields, row values none, h => .row (fieldsEnterAs_columnar fields (h.resolve_left nofun))

/-- The values of fields enter a record in the form that a frame holds. -/
theorem fieldsEnterAs_columnar : ∀ (fields : List (String × UnifiedType)) {values : List Value},
    InhabitsAll fields values → FieldsEnterAs fields values (columnarFields fields values)
  | [], [], _ => .nil
  | (_, type) :: fields, _ :: _, h =>
    .cons (entersAs_columnar type h.1) (fieldsEnterAs_columnar fields h.2)

end

mutual

/-- Values of a type that enter a column as the same entry are the same. -/
theorem EntersAs.eq : ∀ {type : UnifiedType} {a b entry : Value}, EntersAs type a entry →
    EntersAs type b entry → a = b
  | _, _, _, _, .missing, .missing => rfl
  | _, _, _, _, .missing, .plain _ _ => rfl
  | _, _, _, _, .plain _ _, .missing => rfl
  | _, _, _, _, .plain _ _, .plain _ _ => rfl
  | _, _, _, _, .row all, .row all' => by rw [all.eq all']
  | _, _, _, _, .map all, .map all' => by rw [all.eq all']
  | .row fields, _, _, _, .plain noRow _, _ => absurd rfl (noRow fields)
  | .row fields, _, _, _, _, .plain noRow _ => absurd rfl (noRow fields)
  | .map key value, _, _, _, .plain _ noMap, _ => absurd rfl (noMap key value)
  | .map key value, _, _, _, _, .plain _ noMap => absurd rfl (noMap key value)

/-- Fields that enter the same record are the same. -/
theorem FieldsEnterAs.eq : ∀ {fields : List (String × UnifiedType)} {as bs : List Value}
    {entries : List (Value × Value)}, FieldsEnterAs fields as entries →
    FieldsEnterAs fields bs entries → as = bs
  | _, _, _, _, .nil, .nil => rfl
  | _, _, _, _, .cons here later, .cons here' later' => by
    rw [here.eq here', later.eq later']

/-- Pairs that enter the same list are the same. -/
theorem PairsEnterAs.eq : ∀ {key value : UnifiedType} {as bs : List (Value × Value)}
    {records : List Value}, PairsEnterAs key value as records →
    PairsEnterAs key value bs records → as = bs
  | _, _, _, _, _, .nil, .nil => rfl
  | _, _, _, _, _, .cons keyed valued later, .cons keyed' valued' later' => by
    rw [keyed.eq keyed', valued.eq valued', later.eq later']

end

/-- A map holds some entries exactly if it has the same key with the same value for each. -/
theorem hasEntries_iff {entries others : List (Value × Value)} :
    hasEntries entries others = true ↔
      ∀ other ∈ others, ∃ entry ∈ entries, same other.1 entry.1 = true ∧
        same other.2 entry.2 = true := by
  induction others with
  | nil => simp [hasEntries]
  | cons other rest ih => simp [hasEntries, ih]

/-- An entry of a record has one of the names for its key. -/
theorem FieldsEnterAs.exists_name {fields : List (String × UnifiedType)} {values : List Value}
    {entries : List (Value × Value)} (h : FieldsEnterAs fields values entries)
    {entry : Value × Value} (member : entry ∈ entries) :
    ∃ name ∈ fields.map (·.1), entry.1 = text name := by
  induction entries generalizing fields values with
  | nil => contradiction
  | cons first rest ih =>
    cases h with
    | cons here later =>
      rcases List.mem_cons.mp member with rfl | member
      · exact ⟨_, List.mem_cons_self, rfl⟩
      · obtain ⟨name, known, named⟩ := ih later member
        exact ⟨name, List.mem_cons_of_mem _ known, named⟩

/-- Nothing but a missing value denotes the same as a missing value. -/
theorem eq_null_of_same {value : Value} (h : same null value = true ∨ same value null = true) :
    value = null := by
  cases value with
  | null => rfl
  | _ => rcases h with h | h <;> simp [same, sameMagnitude, magnitude?] at h

/-- Two records of a name and what stands under it denote the same if both parts do. -/
theorem same_keyValue {k v k' v' : Value}
    (h : same (map [(text "key", k), (text "value", v)])
      (map [(text "key", k'), (text "value", v')]) = true) :
    same k k' = true ∧ same v v' = true := by
  simpa [same, hasEntries] using h

/-- If one record has every entry of another, their first entries denote the same, and the later
entries of the one are found among those of the other: the names tell them from the first. -/
theorem held_of_cons {name : String} {names : List (String × UnifiedType)} {as bs : List Value}
    {entry other : Value} {entries others : List (Value × Value)}
    (distinct : (name :: names.map (·.1)).Nodup) (later : FieldsEnterAs names as entries)
    (later' : FieldsEnterAs names bs others)
    (held : ∀ e ∈ (text name, entry) :: entries, ∃ o ∈ (text name, other) :: others,
      same e.1 o.1 = true ∧ same e.2 o.2 = true) :
    same entry other = true ∧
      ∀ e ∈ entries, ∃ o ∈ others, same e.1 o.1 = true ∧ same e.2 o.2 = true := by
  have absent := (List.nodup_cons.mp distinct).1
  obtain ⟨⟨o, found, keys, denoted⟩, rest⟩ := List.forall_mem_cons.mp held
  refine ⟨?_, fun e member => ?_⟩
  · rcases List.mem_cons.mp found with rfl | found
    · exact denoted
    · obtain ⟨shown, known, named⟩ := later'.exists_name found
      simp only [named, same, beq_iff_eq] at keys
      exact absurd (keys ▸ known) absent
  · obtain ⟨o, found, keys, denoted⟩ := rest e member
    rcases List.mem_cons.mp found with rfl | found
    · obtain ⟨shown, known, named⟩ := later.exists_name member
      simp only [named, same, beq_iff_eq] at keys
      exact absurd (keys ▸ known) absent
    · exact ⟨o, found, keys, denoted⟩

mutual

/-- Values of a type that enter a column as entries which denote the same denote the same. -/
theorem EntersAs.same : ∀ {type : UnifiedType} {a b entry other : Value}, type.NamesDistinct →
    EntersAs type a entry → EntersAs type b other → Value.same entry other = true →
    Value.same a b = true
  | _, _, _, _, _, _, .plain _ _, .plain _ _, h => h
  | _, _, _, _, _, _, .missing, .missing, h => h
  | _, _, _, _, _, _, .missing, .plain _ _, h => h
  | _, _, _, _, _, _, .plain _ _, .missing, h => h
  | _, _, _, _, _, _, .missing, .row _, h => nomatch eq_null_of_same (.inl h)
  | _, _, _, _, _, _, .missing, .map _, h => nomatch eq_null_of_same (.inl h)
  | _, _, _, _, _, _, .row _, .missing, h => nomatch eq_null_of_same (.inr h)
  | _, _, _, _, _, _, .map _, .missing, h => nomatch eq_null_of_same (.inr h)
  | .row _, _, _, _, _, distinct, .row all, .row all', h => by
    simp only [Value.same, Bool.and_eq_true] at h ⊢
    exact ⟨by simp, all.same distinct.1 distinct.2 all' (hasEntries_iff.mp h.2)⟩
  | .map _ _, _, _, _, _, distinct, .map all, .map all', h => by
    simp only [Value.same] at h
    obtain ⟨same_length, held⟩ := all.same distinct all' h
    simp only [Value.same, Bool.and_eq_true, beq_iff_eq]
    exact ⟨same_length, hasEntries_iff.mpr held⟩
  | .row fields, _, _, _, _, _, .plain noRow _, _, _ => absurd rfl (noRow fields)
  | .row fields, _, _, _, _, _, _, .plain noRow _, _ => absurd rfl (noRow fields)
  | .map key value, _, _, _, _, _, .plain _ noMap, _, _ => absurd rfl (noMap key value)
  | .map key value, _, _, _, _, _, _, .plain _ noMap, _ => absurd rfl (noMap key value)

/-- Fields denote the same, each as its counterpart, if every entry of the one record is found in
the other one. -/
theorem FieldsEnterAs.same : ∀ {fields : List (String × UnifiedType)} {as bs : List Value}
    {entries others : List (Value × Value)}, (fields.map (·.1)).Nodup →
    UnifiedType.FieldNamesDistinct fields → FieldsEnterAs fields as entries →
    FieldsEnterAs fields bs others →
    (∀ entry ∈ entries, ∃ other ∈ others, Value.same entry.1 other.1 = true ∧
      Value.same entry.2 other.2 = true) → sameAll as bs = true
  | [], _, _, _, _, _, _, .nil, .nil, _ => rfl
  | _ :: _, _, _, _, _, distinct, inner, .cons here later, .cons here' later', held => by
    obtain ⟨first, rest⟩ := held_of_cons distinct later later' held
    simp only [sameAll, Bool.and_eq_true]
    exact ⟨here.same inner.1 here' first,
      later.same (List.nodup_cons.mp distinct).2 inner.2 later' rest⟩

/-- Pairs denote the same, each as its counterpart, if the records of both lists do. -/
theorem PairsEnterAs.same : ∀ {key value : UnifiedType} {as bs : List (Value × Value)}
    {records others : List Value}, key.NamesDistinct ∧ value.NamesDistinct →
    PairsEnterAs key value as records → PairsEnterAs key value bs others →
    sameAll records others = true → as.length = bs.length ∧
      ∀ a ∈ as, ∃ b ∈ bs, Value.same a.1 b.1 = true ∧ Value.same a.2 b.2 = true
  | _, _, _, _, _, _, _, .nil, .nil, _ => ⟨rfl, nofun⟩
  | _, _, _, _, _, _, distinct, .cons keyed valued later, .cons keyed' valued' later', h => by
    simp only [sameAll, Bool.and_eq_true] at h
    obtain ⟨k, v⟩ := same_keyValue h.1
    obtain ⟨same_length, held⟩ := later.same distinct later' h.2
    refine ⟨congrArg (· + 1) same_length, List.forall_mem_cons.mpr ⟨?_, fun a member => ?_⟩⟩
    · exact ⟨_, List.mem_cons_self, keyed.same distinct.1 keyed' k, valued.same distinct.2 valued' v⟩
    · obtain ⟨b, found, both⟩ := held a member
      exact ⟨b, List.mem_cons_of_mem _ found, both⟩

end

end Value

end OrcRows
