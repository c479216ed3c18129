import OrcRows.Proofs.Number.DistinctTexts
import OrcRows.Proofs.Text.Characters

/-!
# Types told by their texts

The text of a type is made of words, which are names of tags, names of fields and numbers, and of
the marks between them. A word ends at the first mark behind it, and a type inside of another one
ends where a comma or a closing bracket follows. So a text is read in one way only, as long as no
name of a field holds a mark.
-/

namespace OrcRows

/-- The characters that stand between the words in the text of a type. -/
def typeMarks : List Char := ['<', '>', '(', ')', ',', ':', ' ']

/-- No mark is in a word. -/
def IsWord (text : List Char) : Prop := ∀ c ∈ text, c ∉ typeMarks

/-- What follows a word is nothing or begins with a mark. -/
def EndsWord (rest : List Char) : Prop := ∀ c ∈ rest.head?, c ∈ typeMarks

/-- What follows a type is nothing or begins with a comma or a closing bracket. -/
def EndsType (rest : List Char) : Prop := ∀ c ∈ rest.head?, c = ',' ∨ c = '>'

/-- A word ends before a mark. -/
@[simp] theorem endsWord_cons {c : Char} {rest : List Char} :
    EndsWord (c :: rest) ↔ c ∈ typeMarks := by
  simp [EndsWord]

/-- A type may be all that there is. -/
theorem endsType_nil : EndsType [] := nofun

/-- A type ends before a comma or a closing bracket. -/
@[simp] theorem endsType_cons {c : Char} {rest : List Char} :
    EndsType (c :: rest) ↔ c = ',' ∨ c = '>' := by
  simp [EndsType]

/-- What follows a type may follow a word. -/
theorem EndsType.endsWord {rest : List Char} (h : EndsType rest) : EndsWord rest := by
  intro c first
  obtain rfl | rfl := h c first <;> simp [typeMarks]

/-- A word is what is found before the first mark. -/
theorem IsWord.takeWhile_append {word rest : List Char} (h : IsWord word) (ends : EndsWord rest) :
    (word ++ rest).takeWhile (fun c => decide (c ∉ typeMarks)) = word := by
  rw [List.takeWhile_append_of_pos fun c member => decide_eq_true (h c member)]
  cases rest with
  | nil => exact List.append_nil word
  | cons mark rest => rw [List.takeWhile_cons_of_neg (by simp [ends mark rfl]), List.append_nil]

/-- Two words with marks behind them are equal if the whole is, and so is what follows. -/
theorem IsWord.append_inj {word word' rest rest' : List Char} (h : IsWord word)
    (h' : IsWord word') (ends : EndsWord rest) (ends' : EndsWord rest')
    (same : word ++ rest = word' ++ rest') : word = word' ∧ rest = rest' := by
  have words : word = word' := by
    rw [← h.takeWhile_append ends, same, h'.takeWhile_append ends']
  exact ⟨words, List.append_cancel_left (words ▸ same)⟩

/-- What follows a mark and a blank is equal if the whole is. -/
theorem rest_eq_of_separated {mark mark' : Char} {rest rest' : List Char}
    (same : mark :: ' ' :: rest = mark' :: ' ' :: rest') : rest = rest' :=
  (List.cons.inj (List.cons.inj same).2).2

/-- Names of tags are words. -/
theorem TypeTag.isWord_name (tag : TypeTag) : IsWord tag.name.toList := by
  cases tag <;> exact forall_mem_of_all rfl

/-- Different tags have different names. -/
theorem TypeTag.name_inj {tag tag' : TypeTag} (same : tag.name = tag'.name) : tag = tag' :=
  Option.some.inj (by rw [← ofName?_name tag, same, ofName?_name])

/-- The text of an integer has digits and a sign. -/
theorem mem_toString_int {value : Int} {c : Char} (member : c ∈ (toString value).toList) :
    c.isDigit = true ∨ c = '-' := by
  have digits {n : Nat} (member : c ∈ n.repr.toList) : c.isDigit = true :=
    Decimal.isDigit_of_mem_digits (by rwa [Nat.toList_repr] at member)
  rw [Int.toString_eq_repr, Int.repr_eq_if] at member
  split at member
  · exact .inl (digits member)
  · rw [String.toList_append] at member
    obtain sign | member := List.mem_append.mp member
    · exact .inr (List.mem_singleton.mp sign)
    · exact .inl (digits member)

namespace NativeType

/-- Numbers are words, and so is what stands for a missing one. -/
theorem isWord_numberText (number : Option Int) : IsWord (numberText number).toList := by
  cases number with
  | none => exact forall_mem_of_all rfl
  | some value =>
    have free : ∀ c ∈ typeMarks, ¬ (c.isDigit = true ∨ c = '-') := forall_mem_of_all rfl
    exact fun c member mark => free c mark (mem_toString_int member)

/-- Different numbers have different texts. -/
theorem numberText_inj {number number' : Option Int}
    (same : numberText number = numberText number') : number = number' := by
  -- What stands for a missing number has letters.
  have missing (value : Int) : toString value ≠ "None" := by
    intro named
    have letter : 'N' ∈ (toString value).toList := by rw [named]; decide
    exact absurd (mem_toString_int letter) (by decide)
  cases number with
  | none =>
    cases number' with
    | none => rfl
    | some value => exact absurd same.symm (missing value)
  | some value =>
    cases number' with
    | none => exact absurd same (missing value)
    | some value' => exact congrArg some (Decimal.toString_inj same)

end NativeType

namespace UnifiedType

mutual

/-- No name of a field in a type holds a mark. -/
def HasPlainNames : UnifiedType → Prop
  | basic _ | decimal _ _ => True
  | array element => element.HasPlainNames
  | map key value => key.HasPlainNames ∧ value.HasPlainNames
  | row fields => AllPlainNames fields

/-- No name of fields holds a mark, nor does one in their types. -/
def AllPlainNames : List (String × UnifiedType) → Prop
  | [] => True
  | (name, type) :: rest => IsWord name.toList ∧ type.HasPlainNames ∧ AllPlainNames rest

end

/-- The fields of a row and what follows them behind the closing bracket. -/
def closedFields (fields : List (String × UnifiedType)) (rest : List Char) : List Char :=
  (", ".intercalate (fieldTexts fields)).toList ++ '>' :: rest

/-- What follows a field in the text of a row: the other fields behind a comma, or the end. -/
def laterFields (fields : List (String × UnifiedType)) (rest : List Char) : List Char :=
  match fields with
  | [] => '>' :: rest
  | fields => ',' :: ' ' :: closedFields fields rest

/-- The first of some fields is its name and its type. -/
theorem closedFields_cons (name : String) (type : UnifiedType)
    (fields : List (String × UnifiedType)) (rest : List Char) :
    closedFields ((name, type) :: fields) rest =
      name.toList ++ ':' :: ' ' :: (type.text.toList ++ laterFields fields rest) := by
  cases fields with
  | nil => simp [closedFields, laterFields, fieldTexts]
  | cons next fields => simp [closedFields, laterFields, fieldTexts]

/-- A row without fields is closed at once, and no name of a field begins with the closing
bracket. -/
theorem closedFields_nil_ne {name : String} (word : IsWord name.toList) (type : UnifiedType)
    (fields : List (String × UnifiedType)) (rest rest' : List Char) :
    closedFields [] rest ≠ closedFields ((name, type) :: fields) rest' := by
  intro same
  rw [closedFields_cons] at same
  have empty : IsWord [] := List.forall_mem_nil _
  obtain ⟨_, differ⟩ := empty.append_inj word (by simp [typeMarks]) (by simp [typeMarks]) same
  cases differ

/-- A type ends behind each field. -/
theorem endsType_laterFields (fields : List (String × UnifiedType)) (rest : List Char) :
    EndsType (laterFields fields rest) := by
  cases fields <;> simp [laterFields]

/-- What follows the name of the tag in the text of a type, and what follows the type. -/
def parts (type : UnifiedType) (rest : List Char) : List Char :=
  match type with
  | basic _ => rest
  | decimal precision scale =>
    '(' :: ((NativeType.numberText precision).toList ++
      ',' :: ' ' :: ((NativeType.numberText scale).toList ++ ')' :: rest))
  | array element => '<' :: (element.text.toList ++ '>' :: rest)
  | map key value => '<' :: (key.text.toList ++ ',' :: ' ' :: (value.text.toList ++ '>' :: rest))
  | row fields => '<' :: closedFields fields rest

/-- The text of a type begins with the name of its tag. -/
theorem toList_text_append (type : UnifiedType) (rest : List Char) :
    type.text.toList ++ rest = type.tag.name.toList ++ type.parts rest := by
  cases type <;> simp [text, tag, parts, closedFields, TypeTag.name]

/-- The name of the tag ends where the parts begin. -/
theorem endsWord_parts (type : UnifiedType) {rest : List Char} (ends : EndsType rest) :
    EndsWord (type.parts rest) := by
  cases type with
  | basic tag => exact ends.endsWord
  | _ => simp [parts, typeMarks]

/-- Whether a type is nothing but a tag. -/
def isBasic : UnifiedType → Bool
  | basic _ => true
  | _ => false

/-- A type ends behind the name of its tag exactly if it is nothing else. -/
theorem endsType_parts_iff {type : UnifiedType} {rest : List Char} (ends : EndsType rest) :
    EndsType (type.parts rest) ↔ type.isBasic = true := by
  cases type with
  | basic tag => simpa [parts, isBasic] using ends
  | _ => simp [parts, isBasic]

/-- Types whose texts are equal, with what follows them, are of one kind and have equal parts. -/
theorem kind_and_parts_eq {type type' : UnifiedType} {rest rest' : List Char}
    (ends : EndsType rest) (ends' : EndsType rest')
    (same : type.text.toList ++ rest = type'.text.toList ++ rest') :
    type.tag = type'.tag ∧ type.isBasic = type'.isBasic ∧
      type.parts rest = type'.parts rest' := by
  rw [toList_text_append, toList_text_append] at same
  obtain ⟨names, parts⟩ := type.tag.isWord_name.append_inj type'.tag.isWord_name
    (type.endsWord_parts ends) (type'.endsWord_parts ends') same
  have basics : type.isBasic = true ↔ type'.isBasic = true := by
    rw [← endsType_parts_iff ends, ← endsType_parts_iff ends', parts]
  exact ⟨TypeTag.name_inj (String.toList_inj.mp names), Bool.eq_iff_iff.mpr basics, parts⟩

mutual

/-- Types whose texts are equal, with what follows them, are equal, and so is what follows. -/
theorem text_append_inj (type : UnifiedType) {type' : UnifiedType} {rest rest' : List Char}
    (plain : type.HasPlainNames) (plain' : type'.HasPlainNames) (ends : EndsType rest)
    (ends' : EndsType rest') (same : type.text.toList ++ rest = type'.text.toList ++ rest') :
    type = type' ∧ rest = rest' := by
  obtain ⟨tags, basics, same⟩ := kind_and_parts_eq ends ends' same
  cases type with
  | basic tag =>
    cases type' with
    | basic tag' => exact ⟨congrArg basic tags, same⟩
    | _ => contradiction
  | decimal precision scale =>
    cases type' with
    | decimal precision' scale' =>
      have comma (rest : List Char) : EndsWord (',' :: rest) := by simp [typeMarks]
      have closing (rest : List Char) : EndsWord (')' :: rest) := by simp [typeMarks]
      obtain ⟨precisions, behind⟩ := (NativeType.isWord_numberText precision).append_inj
        (NativeType.isWord_numberText precision') (comma _) (comma _) (List.cons.inj same).2
      obtain ⟨scales, rests⟩ := (NativeType.isWord_numberText scale).append_inj
        (NativeType.isWord_numberText scale') (closing _) (closing _)
        (rest_eq_of_separated behind)
      rw [NativeType.numberText_inj (String.toList_inj.mp precisions),
        NativeType.numberText_inj (String.toList_inj.mp scales)]
      exact ⟨rfl, (List.cons.inj rests).2⟩
    | _ => contradiction
  | array element =>
    cases type' with
    | array element' =>
      have inner : element'.HasPlainNames := plain'
      obtain ⟨elements, rests⟩ := text_append_inj element plain inner
        (endsType_cons.mpr (.inr rfl)) (endsType_cons.mpr (.inr rfl)) (List.cons.inj same).2
      exact ⟨congrArg array elements, (List.cons.inj rests).2⟩
    | _ => contradiction
  | map key value =>
    cases type' with
    | map key' value' =>
      obtain ⟨keys, behind⟩ := text_append_inj key plain.1 plain'.1
        (endsType_cons.mpr (.inl rfl)) (endsType_cons.mpr (.inl rfl)) (List.cons.inj same).2
      obtain ⟨values, rests⟩ := text_append_inj value plain.2 plain'.2
        (endsType_cons.mpr (.inr rfl)) (endsType_cons.mpr (.inr rfl))
        (rest_eq_of_separated behind)
      exact ⟨congrArg₂ map keys values, (List.cons.inj rests).2⟩
    | _ => contradiction
  | row fields =>
    cases type' with
    | row fields' =>
      obtain ⟨all, rests⟩ := closedFields_inj fields plain plain' (List.cons.inj same).2
      exact ⟨congrArg row all, rests⟩
    | _ => contradiction

/-- Fields whose texts are equal, with what follows them, are equal, and so is what follows. -/
theorem closedFields_inj (fields : List (String × UnifiedType))
    {fields' : List (String × UnifiedType)} {rest rest' : List Char}
    (plain : AllPlainNames fields) (plain' : AllPlainNames fields')
    (same : closedFields fields rest = closedFields fields' rest') :
    fields = fields' ∧ rest = rest' := by
  match fields, fields' with
  | [], [] => exact ⟨rfl, (List.cons.inj same).2⟩
  | [], (name, type) :: fields' => exact absurd same (closedFields_nil_ne plain'.1 _ _ _ _)
  | (name, type) :: fields, [] => exact absurd same.symm (closedFields_nil_ne plain.1 _ _ _ _)
  | (name, type) :: fields, (name', type') :: fields' =>
    rw [closedFields_cons, closedFields_cons] at same
    obtain ⟨names, behind⟩ := plain.1.append_inj plain'.1 (by simp [typeMarks])
      (by simp [typeMarks]) same
    obtain ⟨types, later⟩ := text_append_inj type plain.2.1 plain'.2.1
      (endsType_laterFields _ _) (endsType_laterFields _ _)
      (rest_eq_of_separated behind)
    have first : (name, type) = (name', type') :=
      congrArg₂ Prod.mk (String.toList_inj.mp names) types
    match fields, fields' with
    | [], [] => exact ⟨congrArg (· :: []) first, (List.cons.inj later).2⟩
    | [], next' :: others' => cases later
    | next :: others, [] => cases later
    | next :: others, next' :: others' =>
      obtain ⟨all, rests⟩ := closedFields_inj (next :: others) plain.2.2 plain'.2.2
        (rest_eq_of_separated later)
      exact ⟨congrArg₂ List.cons first all, rests⟩

end

/-- Types without marks in the names of their fields are equal if their texts are. -/
theorem text_inj {type type' : UnifiedType} (plain : type.HasPlainNames)
    (plain' : type'.HasPlainNames) (same : type.text = type'.text) : type = type' :=
  (text_append_inj type plain plain' endsType_nil endsType_nil (congrArg (·.toList ++ []) same)).1

end UnifiedType

/-- Fields with equal names and texts of types are equal. -/
theorem Schema.fields_inj {fields fields' : List (String × UnifiedType)}
    (plain : ∀ field ∈ fields, field.2.HasPlainNames)
    (plain' : ∀ field ∈ fields', field.2.HasPlainNames)
    (same : fields.map (fun field => (field.1, field.2.text)) =
      fields'.map fun field => (field.1, field.2.text)) : fields = fields' := by
  induction fields generalizing fields' with
  | nil => exact (List.map_eq_nil_iff.mp same.symm).symm
  | cons field fields ih =>
    cases fields' with
    | nil => cases same
    | cons field' fields' =>
      obtain ⟨here, later⟩ := List.forall_mem_cons.mp plain
      obtain ⟨here', later'⟩ := List.forall_mem_cons.mp plain'
      obtain ⟨first, others⟩ := List.cons.inj same
      obtain ⟨names, texts⟩ := Prod.mk.inj first
      rw [ih later later' others, Prod.ext names (UnifiedType.text_inj here here' texts)]

/-- The text of a type determines the type, and the names of a schema with the texts of its types
determine the schema, as long as no name of a field in a type holds a mark. -/
theorem text_tells_types :
    (∀ type type' : UnifiedType, type.HasPlainNames → type'.HasPlainNames →
      (type.text = type'.text ↔ type = type')) ∧
    ∀ schema schema' : Schema, (∀ type ∈ schema.types, type.HasPlainNames) →
      (∀ type ∈ schema'.types, type.HasPlainNames) →
      (schema.describe = schema'.describe ↔ schema = schema') := by
  constructor
  · intro type type' plain plain'
    exact ⟨UnifiedType.text_inj plain plain', congrArg UnifiedType.text⟩
  · intro schema schema' plain plain'
    refine ⟨fun same => ?_, congrArg Schema.describe⟩
    have all := Schema.fields_inj (List.forall_mem_map.mp plain) (List.forall_mem_map.mp plain')
      same
    obtain ⟨fields, distinct⟩ := schema
    obtain ⟨fields', distinct'⟩ := schema'
    congr

/-- Prices by name. -/
def pricesType : UnifiedType := .map (.basic .string) (.decimal (some 10) (some 2))

/-- Prices by name, each in a record. -/
def pricedType : UnifiedType :=
  .map (.basic .string) (.row [("price", .decimal (some 10) (some 2))])

/-- One field of a type. -/
def itemsSchema (type : UnifiedType) : Schema := ⟨[("items", type)], List.nodup_singleton _⟩

/-- Prices have a text of their own, and a schema with prices is described in its own way. -/
theorem text_tells_prices :
    pricesType.HasPlainNames ∧ pricedType.HasPlainNames ∧ pricesType.text ≠ pricedType.text ∧
    (itemsSchema pricesType).describe ≠ (itemsSchema pricedType).describe := by
  obtain ⟨types, schemas⟩ := text_tells_types
  have plain : pricesType.HasPlainNames := ⟨trivial, trivial⟩
  have plain' : pricedType.HasPlainNames := ⟨trivial, forall_mem_of_all rfl, trivial, trivial⟩
  have differ : pricesType ≠ pricedType := by decide
  refine ⟨plain, plain', fun same => differ ((types _ _ plain plain').mp same), fun same => ?_⟩
  have equal := (schemas (itemsSchema pricesType) (itemsSchema pricedType)
    (List.forall_mem_singleton.mpr plain) (List.forall_mem_singleton.mpr plain')).mp same
  exact differ (Prod.mk.inj (List.cons.inj (congrArg Schema.fields equal)).1).2

/-- A mark in a name may hide a field. -/
example : (UnifiedType.row [("a: INT, b", .basic .int)]).text =
    (UnifiedType.row [("a", .basic .int), ("b", .basic .int)]).text := by decide

end OrcRows
