import OrcRows.Proofs.Json.Forms

/-!
# Values in JSON texts

`Value.ShownBy` says which tree shows a value: numbers by numerals that are read as they are, text as
it is, bytes by hexadecimal digits, decimals, dates and times by their texts, lists and rows by
arrays, maps by arrays of pairs and unions by objects of their tag and their value. A row under the
names of its fields is written as a JSON text if all floating-point numbers in it are finite, and as
no JSON text otherwise.
-/

namespace OrcRows

namespace Value

mutual

/-- All floating-point numbers in a value are finite. -/
def FloatsFinite : Value → Prop
  | float value => value.isFinite = true
  | list elements => EachFinite elements
  | map entries => EntriesFinite entries
  | row fields _ => EachFinite fields
  | union _ _ value => FloatsFinite value
  | _ => True

/-- All floating-point numbers in several values are finite. -/
def EachFinite : List Value → Prop
  | [] => True
  | value :: rest => value.FloatsFinite ∧ EachFinite rest

/-- All floating-point numbers in entries are finite. -/
def EntriesFinite : List (Value × Value) → Prop
  | [] => True
  | (key, value) :: rest => (key.FloatsFinite ∧ value.FloatsFinite) ∧ EntriesFinite rest

end

open Json in
mutual

/-- A value is shown by a tree. -/
inductive ShownBy : Value → Json → Prop
  | null : ShownBy null .null
  | bool {value : Bool} : ShownBy (bool value) (.bool value)
  | int {value : Int} : ShownBy (int value) (.number (toString value))
  | float {value : Binary64} {numeral : String} (read : Binary64.ofText? numeral = some value) :
      ShownBy (float value) (.number numeral)
  | text {value : String} : ShownBy (text value) (.string (units value))
  | bytes {value : List UInt8} : ShownBy (bytes value) (.string (units (Quoted.hexBytes value)))
  | decimal {value : Decimal} : ShownBy (decimal value) (.string (units value.text))
  | date {value : Date} : ShownBy (date value) (.string (units value.text))
  | time {value : TimeOfDay} : ShownBy (time value) (.string (units value.text))
  | timestamp {value : Timestamp} : ShownBy (timestamp value) (.string (units value.text))
  | list {elements : List Value} {trees : List Json} (all : AllShownBy elements trees) :
      ShownBy (list elements) (.array trees)
  | map {entries : List (Value × Value)} {trees : List Json} (all : EntriesShownBy entries trees) :
      ShownBy (map entries) (.array trees)
  | row {fields : List Value} {tableId : Option String} {trees : List Json}
      (all : AllShownBy fields trees) : ShownBy (row fields tableId) (.array trees)
  | union {tag : Int} {type : NativeType} {value : Value} {tree : Json}
      (active : ShownBy value tree) : ShownBy (union tag type value)
        (.object [(units "tag", .number (toString tag)), (units "value", tree)])

/-- Several values are shown by as many trees. -/
inductive AllShownBy : List Value → List Json → Prop
  | nil : AllShownBy [] []
  | cons {value : Value} {values : List Value} {tree : Json} {trees : List Json}
      (here : ShownBy value tree) (later : AllShownBy values trees) :
      AllShownBy (value :: values) (tree :: trees)

/-- Entries are shown by pairs of the trees that show their keys and values. -/
inductive EntriesShownBy : List (Value × Value) → List Json → Prop
  | nil : EntriesShownBy [] []
  | cons {key value : Value} {entries : List (Value × Value)} {first second : Json}
      {trees : List Json} (keyed : ShownBy key first) (valued : ShownBy value second)
      (later : EntriesShownBy entries trees) :
      EntriesShownBy ((key, value) :: entries) (.array [first, second] :: trees)

end

/-- All floating-point numbers in several values are finite if those in each of them are. -/
theorem eachFinite_iff {values : List Value} :
    EachFinite values ↔ ∀ value ∈ values, value.FloatsFinite := by
  induction values with
  | nil => simp [EachFinite]
  | cons value rest ih => rw [EachFinite, ih, List.forall_mem_cons]

/-- There is a tree for each of several values. -/
theorem AllShownBy.forall₂ {values : List Value} {trees : List Json}
    (h : AllShownBy values trees) : List.Forall₂ ShownBy values trees := by
  induction values generalizing trees with
  | nil =>
    cases h
    exact .nil
  | cons value rest ih =>
    cases h with
    | cons here later => exact .cons here (ih later)

end Value

namespace JsonForm

mutual

/-- The numbers in the form of a value are finite exactly if those in the value are. -/
theorem allFinite_ofValue : ∀ value : Value, (ofValue value).AllFinite ↔ value.FloatsFinite
  | .null | .bool _ | .int _ | .text _ | .bytes _ | .decimal _ | .date _ | .time _
  | .timestamp _ => Iff.rfl
  | .float _ => Iff.rfl
  | .list elements => eachFinite_ofValues elements
  | .row fields _ => eachFinite_ofValues fields
  | .map entries => eachFinite_ofEntries entries
  | .union _ _ value => by
    simp only [ofValue, AllFinite, MembersFinite, true_and, and_true, allFinite_ofValue value,
      Value.FloatsFinite]

/-- So it is with several values. -/
theorem eachFinite_ofValues : ∀ values : List Value,
    EachFinite (ofValues values) ↔ Value.EachFinite values
  | [] => Iff.rfl
  | value :: rest => and_congr (allFinite_ofValue value) (eachFinite_ofValues rest)

/-- So it is with entries. -/
theorem eachFinite_ofEntries : ∀ entries : List (Value × Value),
    EachFinite (ofEntries entries) ↔ Value.EntriesFinite entries
  | [] => Iff.rfl
  | (key, value) :: rest => by
    refine and_congr ?_ (eachFinite_ofEntries rest)
    simp only [AllFinite, EachFinite, and_true, allFinite_ofValue key, allFinite_ofValue value]

end

/-- A finite number is written as elsewhere. -/
theorem textIn_floatLayout {value : Binary64} (finite : value.isFinite = true) :
    value.textIn floatLayout = value.text := by
  cases value with
  | nan => contradiction
  | infinite negative => contradiction
  | finite negative significand exponent canonical => rfl

mutual

/-- A value whose numbers are finite is shown by the tree of its form. -/
theorem shownBy_tree : ∀ {value : Value}, value.FloatsFinite → value.ShownBy (ofValue value).tree
  | .null, _ => .null
  | .bool _, _ => .bool
  | .int _, _ => .int
  | .text _, _ => .text
  | .bytes _, _ => .bytes
  | .decimal _, _ => .decimal
  | .date _, _ => .date
  | .time _, _ => .time
  | .timestamp _, _ => .timestamp
  | .float _, finite =>
    .float ((congrArg Binary64.ofText? (textIn_floatLayout finite)).trans
      (Binary64.ofText?_text finite))
  | .list _, finite => .list (allShownBy_trees finite)
  | .row _ _, finite => .row (allShownBy_trees finite)
  | .map _, finite => .map (entriesShownBy_trees finite)
  | .union _ _ _, finite => .union (shownBy_tree finite)

/-- Several values are shown by the trees of their forms. -/
theorem allShownBy_trees : ∀ {values : List Value}, Value.EachFinite values →
    Value.AllShownBy values (trees (ofValues values))
  | [], _ => .nil
  | _ :: _, finite => .cons (shownBy_tree finite.1) (allShownBy_trees finite.2)

/-- Entries are shown by the trees of their forms. -/
theorem entriesShownBy_trees : ∀ {entries : List (Value × Value)}, Value.EntriesFinite entries →
    Value.EntriesShownBy entries (trees (ofEntries entries))
  | [], _ => .nil
  | (_, _) :: _, finite =>
    .cons (shownBy_tree finite.1.1) (shownBy_tree finite.1.2) (entriesShownBy_trees finite.2)

end

/-- The trees of members are those of their forms, under the units of their names. -/
theorem memberTrees_zip (names : List String) (forms : List JsonForm) :
    memberTrees (names.zip forms) = (names.map Json.units).zip (trees forms) := by
  induction names generalizing forms with
  | nil => rfl
  | cons name names ih =>
    cases forms with
    | nil => rfl
    | cons form forms =>
      rw [List.zip_cons_cons, memberTrees, ih, trees, List.map_cons, List.zip_cons_cons]

/-- The numbers in members are finite exactly if those in their forms are, if each has a name. -/
theorem membersFinite_zip {names : List String} {forms : List JsonForm}
    (named : forms.length ≤ names.length) : MembersFinite (names.zip forms) ↔ EachFinite forms := by
  induction names generalizing forms with
  | nil =>
    cases forms with
    | nil => exact Iff.rfl
    | cons form forms => exact absurd named (Nat.not_succ_le_zero _)
  | cons name names ih =>
    cases forms with
    | nil => exact Iff.rfl
    | cons form forms => exact and_congr Iff.rfl (ih (Nat.le_of_succ_le_succ named))

/-- A row whose numbers are finite is written as a JSON object that has the names in order, each with
a tree that shows its field. Any other row is written as no JSON text. -/
theorem isText_ofRow {names : List String} {fields : List Value}
    (width : fields.length = names.length) :
    ((∀ field ∈ fields, field.FloatsFinite) →
      ∃ trees, List.Forall₂ Value.ShownBy fields trees ∧
        Json.IsText (ofRow names fields).compact (.object ((names.map Json.units).zip trees))) ∧
    (¬ (∀ field ∈ fields, field.FloatsFinite) →
      ∀ tree, ¬ Json.IsText (ofRow names fields).compact tree) := by
  have finite_iff : (ofRow names fields).AllFinite ↔ ∀ field ∈ fields, field.FloatsFinite := by
    rw [← Value.eachFinite_iff, ← eachFinite_ofValues]
    exact membersFinite_zip (by rw [length_ofValues, width])
  obtain ⟨written, refused⟩ := isText_compact (ofRow names fields)
  refine ⟨fun finite => ?_, fun infinite => refused (mt finite_iff.mp infinite)⟩
  refine ⟨trees (ofValues fields), (allShownBy_trees (Value.eachFinite_iff.mpr finite)).forall₂, ?_⟩
  rw [← memberTrees_zip]
  exact written (finite_iff.mpr finite)

end JsonForm

end OrcRows
