import OrcRows.Proofs.Cell.Steps

/-!
# Steps that break down but report nothing

Most steps on the way to a cell have no report of their own: storage that is not reached, bytes that
nothing decodes, a number or decimal without a result are all breakdowns. Only the shape of a
vector, the kinds of its parts, the tag of a union and dates outside the calendar are reported.
Positions are looked up in storage and among parts, never on the way from what is stored to a value.
-/

namespace OrcRows

/-- A fault that is no report. -/
def Fault.IsBreakdown : Fault → Prop
  | .reported _ => False
  | .broken _ => True

namespace Outcome

variable {α β : Type} {outcome : Outcome α}

/-- An outcome without a fault, or with a breakdown. -/
def OnlyBreaks (outcome : Outcome α) : Prop := outcome.Ends Fault.IsBreakdown fun _ => True

/-- A value is no fault. -/
theorem onlyBreaks_ok (value : α) : OnlyBreaks (.ok value) := trivial

/-- A breakdown is no report. -/
theorem onlyBreaks_broken (cause : Breakdown) : OnlyBreaks (.error (.broken cause) : Outcome α) :=
  trivial

/-- Something missing is a breakdown. -/
theorem onlyBreaks_ofOption (cause : Breakdown) (value : Option α) :
    OnlyBreaks (ofOption cause value) := by
  cases value <;> trivial

/-- What goes on after an outcome may break down in its turn. -/
theorem OnlyBreaks.bind {next : α → Outcome β} (h : outcome.OnlyBreaks)
    (hn : ∀ value, (next value).OnlyBreaks) : (outcome >>= next).OnlyBreaks :=
  Ends.bind h fun value _ => hn value

/-- Mapping adds no fault. -/
theorem OnlyBreaks.map {f : α → β} (h : outcome.OnlyBreaks) :
    OnlyBreaks (outcome.map f) :=
  Ends.map h fun _ _ => trivial

/-- Where breakdowns are permitted, an outcome that only breaks down ends as it should if its values
do. -/
theorem OnlyBreaks.ends {permitted : Fault → Prop} {good : α → Prop} (h : outcome.OnlyBreaks)
    (hp : ∀ cause, permitted (.broken cause)) (hg : ∀ value, outcome = .ok value → good value) :
    outcome.Ends permitted good := by
  cases outcome with
  | ok value => exact hg value rfl
  | error fault =>
    cases fault with
    | reported report => exact h.elim
    | broken cause => exact hp cause

end Outcome

open Outcome

section Values

variable {permitted : Fault → Prop}
  (elsewhere : ∀ cause, cause ≠ .outOfRange → permitted (.broken cause))

include elsewhere

/-- Something missing is a breakdown by the cause that is given for it. -/
theorem elsewhere_ofOption {α : Type} {cause : Breakdown} (differ : cause ≠ .outOfRange)
    (value : Option α) : (ofOption cause value).Ends permitted fun _ => True := by
  cases value with
  | none => exact elsewhere cause differ
  | some value => trivial

/-- Decoding bytes comes to no position that designates nothing. -/
theorem elsewhere_textOf (encoding : Encoding) (bytes : List UInt8) :
    (encoding.textOf bytes).Ends permitted fun _ => True := by
  rw [Encoding.textOf]
  split
  · trivial
  · cases encoding.decode bytes with
    | ok chars => trivial
    | error fault => cases fault <;> exact elsewhere _ (by decide)

/-- Presenting a decimal comes to no position that designates nothing. -/
theorem elsewhere_toScale (precision scale : Option Int) (value : Value) :
    (value.toScale precision scale).Ends permitted fun _ => True := by
  have hlimit : ∀ precision, (Value.digitLimit precision).Ends permitted fun _ => True := by
    intro precision
    rw [Value.digitLimit]
    split
    · exact elsewhere _ (by decide)
    · split
      · exact elsewhere _ (by decide)
      · trivial
  have hunit : ∀ scale, (Value.unitExponent scale).Ends permitted fun _ => True := by
    intro scale
    rw [Value.unitExponent]
    split
    · exact elsewhere _ (by decide)
    · split
      · exact elsewhere _ (by decide)
      · trivial
  cases value with
  | decimal value =>
    refine (elsewhere_ofOption elsewhere (by decide) _).bind fun precision _ => ?_
    refine (hlimit precision).bind fun limit _ => ?_
    refine (elsewhere_ofOption elsewhere (by decide) _).bind fun scale _ => ?_
    exact (hunit scale).bind fun unit _ =>
      (elsewhere_ofOption elsewhere (by decide) _).bind fun shown _ => trivial
  | _ => trivial

/-- Presenting a value comes to no position that designates nothing. -/
theorem elsewhere_present (policy : TextPolicy) (category : Category) (value : Value)
    (unified : Option UnifiedType) :
    (value.present policy category unified).Ends permitted fun _ => True := by
  have hfloating : ∀ single, (value.toFloating single).Ends permitted fun _ => True := by
    intro single
    cases value with
    | int value => exact (elsewhere_ofOption elsewhere (by decide) _).bind fun number _ => trivial
    | _ => trivial
  have htext : (value.toText policy.encoding).Ends permitted fun _ => True := by
    cases value with
    | bytes value => exact (elsewhere_textOf elsewhere _ _).map fun _ _ => trivial
    | _ => trivial
  rw [Value.present.eq_def]
  split
  · trivial
  · exact elsewhere_toScale elsewhere _ _ _
  · split
    · split
      · trivial
      · exact htext
    · exact hfloating true
    · exact hfloating false
    · trivial
    · trivial

/-- Keeping or decoding bytes comes to no position that designates nothing. -/
theorem elsewhere_bytesValue (policy : TextPolicy) (category : Category) (value : List UInt8) :
    (bytesValue policy category value).Ends permitted fun _ => True := by
  rw [bytesValue]
  split
  · trivial
  · exact (elsewhere_textOf elsewhere _ _).map fun _ _ => trivial

end Values

/-- Presenting a value can only break down. -/
theorem onlyBreaks_present (policy : TextPolicy) (category : Category) (value : Value)
    (unified : Option UnifiedType) : (value.present policy category unified).OnlyBreaks :=
  elsewhere_present (fun _ _ => trivial) policy category value unified

/-- Bytes are kept or decoded. -/
theorem onlyBreaks_bytesValue (policy : TextPolicy) (category : Category) (value : List UInt8) :
    (bytesValue policy category value).OnlyBreaks :=
  elsewhere_bytesValue (fun _ _ => trivial) policy category value

/-- Flags that are not there are a breakdown. -/
theorem onlyBreaks_nullAt (flags : RowFlags) (row : Int) : (flags.nullAt row).OnlyBreaks := by
  rw [RowFlags.nullAt]
  split
  · exact onlyBreaks_ok _
  · exact onlyBreaks_ofOption _ _

/-- A slice that storage does not reach is a breakdown. -/
theorem onlyBreaks_slice (flags : RowFlags) (offsets lengths : List Int) (row : Int) :
    (slice flags offsets lengths row).OnlyBreaks :=
  (onlyBreaks_ofOption _ _).bind fun _ => (onlyBreaks_ofOption _ _).bind fun _ => onlyBreaks_ok _

/-- A row of a branch that storage does not reach is a breakdown. -/
theorem onlyBreaks_branchRow (flags : RowFlags) (offsets : Option (List Int)) (row : Int) :
    (ColumnVector.branchRow flags offsets row).OnlyBreaks := by
  cases offsets with
  | none => exact onlyBreaks_ok _
  | some offsets => exact onlyBreaks_ofOption _ _

/-- Consecutive rows that only break down do so together. -/
theorem onlyBreaks_readRows {read : Int → Outcome Value} (h : ∀ row, (read row).OnlyBreaks)
    (first : Int) (count : Nat) : (readRows read first count).OnlyBreaks :=
  (ends_readRows fun row _ _ => h row).mono fun _ _ => trivial

end OrcRows
