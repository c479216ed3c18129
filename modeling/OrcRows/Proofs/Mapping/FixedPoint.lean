import OrcRows.Proofs.Mapping
import OrcRows.Proofs.Mapping.Columns

/-!
# Asking for what is given

What a type is given can be asked for: the type is then given the same again. So mapping comes to
rest after one step, for single types and for the schema of the selected columns of a file.
-/

namespace OrcRows

namespace UnifiedType

/-- Timestamps do not convert to times. -/
theorem tag_ne_time_of_canConvert {type : UnifiedType}
    (h : canConvert (.basic .timestamp) type = .ok true) : type.tag ≠ .time := by
  rcases canConvert_basic h with rfl | rfl | ⟨wider, rfl, hw⟩
  · decide
  · decide
  · cases wider <;> contradiction

end UnifiedType

namespace NativeType

mutual

/-- A type is given again what it is given, when this is asked for. -/
theorem IsGiven.again {declared : NativeType} {target : Option UnifiedType}
    {unified : UnifiedType} (h : declared.IsGiven target unified) :
    declared.IsGiven (some unified) unified := by
  cases h with
  | time asked => exact .time rfl
  | @leaf _ _ own _ kind timeless granted =>
    have converts := UnifiedType.canConvert_of_finalType granted
    refine .leaf kind ?_ (UnifiedType.finalType_of_canConvert converts)
    intro timed asked
    obtain ⟨category, children, fieldNames, precision, scale⟩ := declared
    cases timed
    injection kind with same
    subst same
    exact UnifiedType.tag_ne_time_of_canConvert converts (Option.some_inj.mp asked)
  | list given allowed => exact .list given.again allowed
  | map givenKey givenValue => exact .map givenKey.again givenValue.again
  | struct given covered distinct =>
    refine .struct ?_ covered distinct
    rw [Option.map_some, Option.getD_some, UnifiedType.fieldTypes_zip covered]
    exact given.again

/-- Types are given again what they are given, when this is asked for. -/
theorem AreGiven.again {declared : List NativeType} {targets types : List UnifiedType}
    (h : AreGiven declared targets types) : AreGiven declared types types := by
  cases h with
  | nil => exact .nil
  | cons first others => exact .cons first.again others.again

end

/-- A declared type is given again what it is given. -/
theorem unify_again {declared : NativeType} {target : Option UnifiedType} {unified : UnifiedType}
    (h : declared.unify target = .ok unified) : declared.unify (some unified) = .ok unified :=
  (isGiven_of_unify h).again.unify_eq_ok

/-- Selected columns are given again what they are given. -/
theorem columnTypes_again {file : NativeType} {names : List String}
    {targets types : List UnifiedType} (h : file.columnTypes names targets = .ok types) :
    file.columnTypes names types = .ok types := by
  induction names generalizing targets types with
  | nil =>
    injection h with same
    rw [← same]
    rfl
  | cons name rest ih =>
    obtain ⟨type, htype, h⟩ := Outcome.bind_eq_ok h
    obtain ⟨others, hothers, h⟩ := Outcome.bind_eq_ok h
    injection h with same
    obtain ⟨declared, found, given⟩ := columnType_eq_ok htype
    rw [← same, columnTypes, List.head?_cons, List.tail_cons,
      columnType_of found (unify_again given), Outcome.ok_bind, ih hothers]
    rfl

/-- A type that is given, and a schema that is found for the selected columns of a file, are given
and found again when they are asked for. -/
theorem unify_inferSchema_again :
    (∀ (declared : NativeType) (target : Option UnifiedType) (unified : UnifiedType),
      declared.unify target = .ok unified → declared.unify (some unified) = .ok unified) ∧
    (∀ (file : NativeType) (target : Option Schema) (selected : Option (List String))
      (schema : Schema), file.inferSchema target selected = .ok schema →
        file.inferSchema (some schema) selected = .ok schema) := by
  refine ⟨fun _ _ _ => unify_again, fun file target selected schema h => ?_⟩
  obtain ⟨types, htypes, made⟩ := Outcome.bind_eq_ok h
  rw [inferSchema, Option.map_some, Option.getD_some, Schema.types_of made,
    columnTypes_again htypes, Outcome.ok_bind, made]

/-- A file of sales: when they were made, the sizes that were sold and what they cost by shop. -/
def sales : NativeType :=
  .struct [("at", .primitive .timestamp), ("sizes", .list (.primitive .int)),
    ("prices", .map (.primitive .int) (.decimal (some 10) (some 2)))]

/-- What sales may be asked to be: sizes that are granted, and keys that are not. -/
def salesAsked : UnifiedType :=
  .row [("a", .basic .time), ("b", .array (.basic .double)),
    ("c", .map (.basic .date) (.decimal (some 12) (some 4)))]

/-- What sales are given then. -/
def salesGiven : UnifiedType :=
  .row [("at", .basic .time), ("sizes", .array (.basic .double)),
    ("prices", .map (.basic .int) (.decimal (some 12) (some 4)))]

/-- Sales are given the same again, and so are two of their columns under other types. -/
theorem unify_inferSchema_again_sales :
    (sales.unify (some salesAsked) = .ok salesGiven ∧
      sales.unify (some salesGiven) = .ok salesGiven) ∧
    ∃ target schema : Schema,
      sales.inferSchema (some target) (some ["sizes", "at"]) = .ok schema ∧
        schema.fields = [("sizes", .array (.basic .bigint)), ("at", .basic .timestamp)] ∧
        sales.inferSchema (some schema) (some ["sizes", "at"]) = .ok schema := by
  constructor
  · have given : sales.unify (some salesAsked) = .ok salesGiven := rfl
    exact ⟨given, unify_inferSchema_again.1 _ _ _ given⟩
  · have found : sales.inferSchema (some ⟨[("x", .array (.basic .bigint))], by decide⟩)
        (some ["sizes", "at"]) =
      .ok ⟨[("sizes", .array (.basic .bigint)), ("at", .basic .timestamp)], by decide⟩ := rfl
    exact ⟨_, _, found, rfl, unify_inferSchema_again.2 _ _ _ _ found⟩

end NativeType

end OrcRows
