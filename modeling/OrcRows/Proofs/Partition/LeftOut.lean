import OrcRows.Proofs.Partition.Directories
import OrcRows.Proofs.Partition.Named
import OrcRows.Proofs.Partition.Values
import OrcRows.Proofs.Pattern.Binding

/-!
# Groups that are left out of a match

A pattern is accepted if it has a group, but a match may leave the first group out, and then there
is no value to decode. Partitions are found for all definitions unless this happens to one of them
in one of the directories. It never happens if the patterns bind their first groups.
-/

namespace OrcRows

/-- A definition whose pattern, if it has one, binds its first group is never torn. -/
theorem PartitionDefinition.not_isTorn_of_binds {definition : PartitionDefinition}
    (bound : ∀ pattern, definition.pattern = some pattern → pattern.body.binds 1 = true)
    (directories : List (List Char)) : ¬ definition.IsTorn directories := by
  cases written : definition.pattern with
  | none => exact not_isTorn_of_unwritten written directories
  | some pattern =>
    rintro ⟨directory, _, torn⟩
    rw [find?, written] at torn
    obtain ⟨reached, found, missing⟩ := Option.map_eq_some_iff.mp torn
    have held := Pattern.isSome_captured?_of_binds (bound pattern written) found
    rw [missing] at held
    cases held

namespace Partition

/-- The definitions give a value or none each, in order, unless one of them matches a directory with
its first group left out; then there are no partitions at all. Definitions without patterns never
do, nor do patterns that bind their first group. -/
theorem ofPath_left_out {path : String} {definitions : List PartitionDefinition}
    (rooted : IsRooted path) (distinct : (definitions.map (·.name)).Nodup) :
    ((∀ definition ∈ definitions, ¬ definition.IsTorn (folders path)) →
      ofPath path definitions = (missing path (folders path) definitions,
        .ok (definitions.map fun definition =>
          (definition.name, definition.last? (folders path))))) ∧
    ((∃ definition ∈ definitions, definition.IsTorn (folders path)) →
      (ofPath path definitions).2 = .error (.broken .illTyped)) ∧
    ∀ definition ∈ definitions,
      (∀ pattern, definition.pattern = some pattern → pattern.body.binds 1 = true) →
        ¬ definition.IsTorn (folders path) := by
  refine ⟨fun whole => ofPath_eq_ok rooted whole distinct, fun torn => ?_,
    fun definition _ bound => definition.not_isTorn_of_binds bound (folders path)⟩
  rw [ofPath, directories_of_isRooted rooted]
  exact valuesIn_eq_error torn [] []

/-- A year after a letter. -/
def yearPattern : PathPattern where
  text := "y(\\d+)"
  body := .sequence (.literal 'y')
    (.capture 1 (.repetition 1 none true (.one ⟨[.named .digit false false], false, .distinct⟩)))
  groups := 1
  readable := ⟨CharName.code?, rfl⟩
  capturing := by decide

/-- A year found by its pattern, and a month without one. -/
def dateDefinitions : List PartitionDefinition :=
  [⟨"year", some yearPattern, by decide⟩, ⟨"month", none, by decide⟩]

/-- The year is found, and the month is missing. -/
theorem ofPath_left_out_year :
    IsRooted "/d/y2023/f.orc" ∧
      ofPath "/d/y2023/f.orc" dateDefinitions =
        ([.partitionMissing "month" "/d/y2023/f.orc"],
          .ok [("year", some "2023"), ("month", none)]) := by
  have rooted : IsRooted "/d/y2023/f.orc" := .of_all rfl (by decide) rfl
  have distinct : (dateDefinitions.map (·.name)).Nodup := by decide
  obtain ⟨result, _, bound⟩ := ofPath_left_out rooted distinct
  have whole : ∀ definition ∈ dateDefinitions, ¬ definition.IsTorn (folders "/d/y2023/f.orc") := by
    refine fun definition member => bound definition member fun pattern written => ?_
    obtain rfl | rfl : definition = _ ∨ definition = _ := by
      simpa [dateDefinitions] using member
    · cases written
      rfl
    · cases written
  exact ⟨rooted, (result whole).trans rfl⟩

/-- A letter that may be left out, before another one. -/
def lettersPattern : PathPattern where
  text := "(a)?b"
  body := .sequence (.repetition 0 (some 1) true (.capture 1 (.literal 'a'))) (.literal 'b')
  groups := 1
  readable := ⟨CharName.code?, rfl⟩
  capturing := by decide

/-- The pattern is accepted, and there are no partitions where the letter is left out. -/
theorem letters_left_out :
    PathPattern.ofText CharName.code? "(a)?b" = .ok lettersPattern ∧ IsRooted "/b/f.orc" ∧
      (ofPath "/b/f.orc" [⟨"x", some lettersPattern, by decide⟩]).2 =
        .error (.broken .illTyped) :=
  ⟨rfl, .of_all rfl (by decide) rfl, rfl⟩

end Partition

end OrcRows
