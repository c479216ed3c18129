import OrcRows.Proofs.Cell.Reports
import OrcRows.Proofs.Mapping
import OrcRows.Table.Batch

/-!
# What reports about types say

A report about types names categories and elements, names and numbers of fields, and the column that
is missing or has no type; a report about a column that no vector can hold names its type. The file
is not among these facts.
-/

namespace OrcRows

/-- The names of the facts that reports about types may name. -/
def typeFacts : List String := ["category", "element", "names", "types", "column", "available"]

/-- An outcome without a fault, or with one that types may have. -/
def Outcome.AboutTypes {α : Type} (outcome : Outcome α) : Prop :=
  outcome.Ends (Fault.Mentions typeFacts) fun _ => True

namespace Outcome

variable {α β : Type} {outcome : Outcome α}

/-- A breakdown names no facts. -/
theorem OnlyBreaks.aboutTypes (h : outcome.OnlyBreaks) : outcome.AboutTypes :=
  h.ends (fun _ => trivial) fun _ _ => trivial

/-- A report about types names facts of types. -/
theorem aboutTypes_report {kind : ReportKind} {message : String} {facts : List (String × Value)}
    (h : ∀ fact ∈ facts, fact.1 ∈ typeFacts) :
    AboutTypes (.error (.report kind message facts) : Outcome α) :=
  Fault.mentions_report h

/-- What goes on after an outcome may add its own fault. -/
theorem AboutTypes.bind {next : α → Outcome β} (h : outcome.AboutTypes)
    (hn : ∀ value, (next value).AboutTypes) : (outcome >>= next).AboutTypes :=
  Ends.bind h fun value _ => hn value

/-- Mapping adds no fault. -/
theorem AboutTypes.map {f : α → β} (h : outcome.AboutTypes) :
    AboutTypes (outcome.map f) :=
  Ends.map h fun _ _ => trivial

end Outcome

namespace UnifiedType

/-- Comparing decimal types reports nothing. -/
theorem onlyBreaks_decimalWidens (precision scale precision' scale' : Option Int) :
    (decimalWidens precision scale precision' scale').OnlyBreaks := by
  rw [decimalWidens.eq_def]
  split
  · split
    · split <;> trivial
    · trivial
  · trivial

mutual

/-- Asking whether a type converts to another one reports nothing. -/
theorem onlyBreaks_canConvert (source target : UnifiedType) :
    (canConvert source target).OnlyBreaks := by
  rw [canConvert.eq_def]
  split
  · trivial
  · cases source with
    | basic tag => cases target <;> trivial
    | decimal precision scale =>
      cases target with
      | decimal precision' scale' => exact onlyBreaks_decimalWidens _ _ _ _
      | basic _ | array _ | map _ _ | row _ => trivial
    | array element =>
      cases target with
      | array element' => exact onlyBreaks_canConvert element element'
      | basic _ | decimal _ _ | map _ _ | row _ => trivial
    | map key value =>
      cases target with
      | map key' value' =>
        refine (onlyBreaks_canConvert key key').bind fun granted => ?_
        cases granted with
        | true => exact onlyBreaks_canConvert value value'
        | false => trivial
      | basic _ | decimal _ _ | array _ | row _ => trivial
    | row fields =>
      cases target with
      | row fields' =>
        simp only
        split
        · exact onlyBreaks_canConvertFields fields fields'
        · trivial
      | basic _ | decimal _ _ | array _ | map _ _ => trivial

/-- Asking whether fields convert to other ones reports nothing. -/
theorem onlyBreaks_canConvertFields (fields targets : List (String × UnifiedType)) :
    (canConvertFields fields targets).OnlyBreaks := by
  match fields, targets with
  | [], _ => trivial
  | _ :: _, [] => trivial
  | (_, type) :: fields, (_, target) :: targets =>
    refine (onlyBreaks_canConvert type target).bind fun granted => ?_
    cases granted with
    | true => exact onlyBreaks_canConvertFields fields targets
    | false => trivial

end

/-- Granting a type that is asked for reports nothing. -/
theorem onlyBreaks_finalType (declared : UnifiedType) (target : Option UnifiedType) :
    (declared.finalType target).OnlyBreaks := by
  cases target with
  | none => trivial
  | some wanted =>
    refine (onlyBreaks_canConvert declared wanted).bind fun granted => ?_
    cases granted <;> trivial

end UnifiedType

/-- Names and types that make no schema are reported with both. -/
theorem Schema.aboutTypes_of (names : List String) (types : List UnifiedType) :
    (Schema.of names types).AboutTypes := by
  rw [Schema.of]
  split
  · split
    · trivial
    · exact Outcome.aboutTypes_report (by simp [typeFacts])
  · exact Outcome.aboutTypes_report (by simp [typeFacts])

namespace NativeType

/-- Reports about elements of arrays name category and element. -/
theorem aboutTypes_arrayOf (declared : NativeType) (element : UnifiedType) :
    (declared.arrayOf element).AboutTypes := by
  rw [arrayOf]
  split
  · trivial
  · exact (Outcome.onlyBreaks_ofOption _ _).aboutTypes.bind fun _ =>
      Outcome.aboutTypes_report (by simp [typeFacts])

mutual

/-- Reports about a type that a declared type is given name facts of types. -/
theorem aboutTypes_unify (declared : NativeType) (target : Option UnifiedType) :
    (declared.unify target).AboutTypes := by
  match declared with
  | node category children fieldNames precision scale =>
    rw [unify.eq_def]
    simp only
    split
    case h_1 tag _ => exact (UnifiedType.onlyBreaks_finalType _ target).aboutTypes
    case h_2 =>
      split
      · split
        · trivial
        · exact (UnifiedType.onlyBreaks_finalType _ target).aboutTypes
      · exact (UnifiedType.onlyBreaks_finalType _ target).aboutTypes
      · exact (aboutTypes_unify _ _).bind fun type => aboutTypes_arrayOf _ type
      · exact (aboutTypes_unify _ _).bind fun _ => (aboutTypes_unify _ _).bind fun _ => trivial
      · exact (aboutTypes_unify _ _).map.bind fun _ => trivial
      · exact (aboutTypes_unifyAll _ _).bind fun types =>
          (Schema.aboutTypes_of _ types).bind fun _ => trivial
      · exact Outcome.aboutTypes_report (by simp [typeFacts])
      · trivial

/-- Reports about types that declared types are given name facts of types. -/
theorem aboutTypes_unifyAll (declared : List NativeType) (targets : List UnifiedType) :
    (unifyAll declared targets).AboutTypes := by
  match declared with
  | [] => trivial
  | first :: rest =>
    exact (aboutTypes_unify first _).bind fun _ =>
      (aboutTypes_unifyAll rest _).bind fun _ => trivial

end

variable (file : NativeType)

/-- Looking up a column reports nothing. -/
theorem onlyBreaks_of_column? {name : String} {found : Outcome NativeType}
    (h : file.column? name = some found) : found.OnlyBreaks := by
  obtain ⟨place, _, rfl⟩ := Option.map_eq_some_iff.mp h
  exact Outcome.onlyBreaks_ofOption _ _

/-- Reports about a selected column name the column as well. -/
theorem aboutTypes_columnType (name : String) (target : Option UnifiedType) :
    (file.columnType name target).AboutTypes := by
  rw [columnType]
  cases found : file.column? name with
  | none => exact Outcome.aboutTypes_report (by simp [typeFacts])
  | some outcome =>
    refine (file.onlyBreaks_of_column? found).aboutTypes.bind fun declared => ?_
    have habout := declared.aboutTypes_unify target
    cases given : declared.unify target with
    | ok type => trivial
    | error fault =>
      rw [given] at habout
      cases fault with
      | broken cause => trivial
      | reported report =>
        simp only
        split
        · intro fact hf
          rcases Report.mem_context_addContext hf with known | added
          · exact habout fact known
          · rw [List.mem_singleton.mp added]
            simp [typeFacts]
        · exact habout

/-- Reports about selected columns name facts of types. -/
theorem aboutTypes_columnTypes (names : List String) (targets : List UnifiedType) :
    (file.columnTypes names targets).AboutTypes := by
  induction names generalizing targets with
  | nil => trivial
  | cons name rest ih =>
    exact (file.aboutTypes_columnType name _).bind fun _ => (ih _).bind fun _ => trivial

/-- Reports about the schema of a file name facts of types. -/
theorem aboutTypes_inferSchema (target : Option Schema) (selected : Option (List String)) :
    (file.inferSchema target selected).AboutTypes :=
  (file.aboutTypes_columnTypes _ _).bind fun types => Schema.aboutTypes_of _ types

/-- A type without a category is reported under its name. -/
theorem aboutTypes_withoutCategory (type : ColumnType) : (withoutCategory type).AboutTypes :=
  Outcome.aboutTypes_report (by simp [typeFacts])

mutual

/-- Reports about a column of a table name its type. -/
theorem aboutTypes_ofColumn (type : ColumnType) : (ofColumn type).AboutTypes := by
  match type with
  | .list element =>
    rw [ofColumn]
    exact (aboutTypes_ofColumn element).bind fun _ => trivial
  | .map key value =>
    rw [ofColumn]
    exact (aboutTypes_ofColumn key).bind fun _ => (aboutTypes_ofColumn value).bind fun _ => trivial
  | .struct fields =>
    rw [ofColumn]
    exact (aboutTypes_ofColumns fields).bind fun _ => trivial
  | .union _ branches _ =>
    rw [ofColumn]
    exact (aboutTypes_ofColumns branches).bind fun _ => trivial
  | .boolean | .text _ | .binary _ | .date | .timestamp _ | .decimal _ _ | .floating .single
  | .floating .double => trivial
  | .floating .half | .foreign _ => exact aboutTypes_withoutCategory _
  | .integer signed bits =>
    rw [ofColumn.eq_def]
    split <;> first | trivial | exact aboutTypes_withoutCategory _

/-- Reports about columns of a table name the type of one of them. -/
theorem aboutTypes_ofColumns (fields : List (String × ColumnType)) :
    (ofColumns fields).AboutTypes := by
  match fields with
  | [] => trivial
  | (_, type) :: rest =>
    rw [ofColumns]
    exact (aboutTypes_ofColumn type).bind fun _ => (aboutTypes_ofColumns rest).bind fun _ => trivial

end

/-- Reports about the declared type of a table name the type of a column. -/
theorem aboutTypes_ofTable (fields : List (String × ColumnType)) : (ofTable fields).AboutTypes :=
  (aboutTypes_ofColumns fields).map

end NativeType

namespace ColumnVector

mutual

/-- Reports about the vector of a column name the type of the column. -/
theorem aboutTypes_ofColumn (type : ColumnType) (array : ColumnData) :
    (ofColumn type array).AboutTypes := by
  rw [ofColumn.eq_def]
  split
  case h_1 => exact Outcome.aboutTypes_report (by simp [typeFacts])
  case h_10 => exact (aboutTypes_ofColumn _ _).bind fun _ => trivial
  case h_11 =>
    exact (aboutTypes_ofColumn _ _).bind fun _ => (aboutTypes_ofColumn _ _).bind fun _ => trivial
  case h_12 => exact (aboutTypes_ofColumns _ _).bind fun _ => trivial
  case h_13 =>
    refine Outcome.AboutTypes.bind (Outcome.Ends.mapM fun code _ => ?_) fun _ =>
      (aboutTypes_ofColumns _ _).bind fun _ => trivial
    exact (Outcome.onlyBreaks_ofOption _ _).aboutTypes
  all_goals trivial

/-- Reports about the vectors of columns name the type of one of them. -/
theorem aboutTypes_ofColumns (fields : List (String × ColumnType)) (columns : List ColumnData) :
    (ofColumns fields columns).AboutTypes := by
  match fields, columns with
  | [], [] => trivial
  | [], _ :: _ => trivial
  | _ :: _, [] => trivial
  | (_, type) :: fields, column :: columns =>
    rw [ofColumns]
    exact (aboutTypes_ofColumn type column).bind fun _ =>
      (aboutTypes_ofColumns fields columns).bind fun _ => trivial

end

end ColumnVector

end OrcRows
