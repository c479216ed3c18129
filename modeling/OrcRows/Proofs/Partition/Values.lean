import OrcRows.Partition
import OrcRows.Proofs.Outcome

/-!
# What definitions find in directories

A definition looks at the directories from the top and keeps what it finds last. Only a match whose
first group took no part stops it. The partitions of several definitions are those that each of them
finds by itself, in order, with a notice for every definition that finds nothing.
-/

namespace OrcRows

open Outcome

namespace PartitionDefinition

variable {definition : PartitionDefinition} {directories : List (List Char)}

/-- A definition matches one of the directories, and the first group takes no part in it. -/
def IsTorn (definition : PartitionDefinition) (directories : List (List Char)) : Prop :=
  ∃ directory ∈ directories, definition.find? directory = some none

/-- What a definition finds in the last directory that it matches. -/
def last? (definition : PartitionDefinition) (directories : List (List Char)) :
    Option String :=
  (directories.reverse.findSome? fun directory => (definition.find? directory).join).map
    fun written => Percent.decode (String.ofList written)

/-- The last match gives the value. -/
theorem valueIn_eq_ok (whole : ¬ definition.IsTorn directories) (found : Option String) :
    definition.valueIn found directories = .ok ((definition.last? directories).or found) := by
  induction directories generalizing found with
  | nil => rfl
  | cons directory rest ih =>
    have later : ¬ definition.IsTorn rest := fun ⟨other, member, torn⟩ =>
      whole ⟨other, List.mem_cons_of_mem directory member, torn⟩
    rw [valueIn, last?, List.reverse_cons, List.findSome?_append, List.findSome?_singleton]
    cases here : definition.find? directory with
    | none =>
      rw [Option.join_none, Option.or_none]
      exact ih later found
    | some matched =>
      cases matched with
      | none => exact absurd ⟨directory, List.mem_cons_self, here⟩ whole
      | some written =>
        simp only [ih later, last?, Option.join_some, Option.map_or, Option.or_assoc]
        rfl

/-- A match without the first group is the end. -/
theorem valueIn_eq_error (torn : definition.IsTorn directories) (found : Option String) :
    definition.valueIn found directories = .error (.broken .illTyped) := by
  induction directories generalizing found with
  | nil =>
    obtain ⟨_, member, _⟩ := torn
    cases member
  | cons directory rest ih =>
    rw [valueIn]
    cases here : definition.find? directory with
    | none =>
      obtain ⟨other, member, there⟩ := torn
      obtain rfl | member := List.mem_cons.mp member
      · cases here.symm.trans there
      · exact ih ⟨other, member, there⟩ found
    | some matched =>
      cases matched with
      | none => rfl
      | some written =>
        obtain ⟨other, member, there⟩ := torn
        obtain rfl | member := List.mem_cons.mp member
        · cases here.symm.trans there
        · exact ih ⟨other, member, there⟩ _

end PartitionDefinition

/-- A name that is not there yet is put last. -/
theorem PartitionMap.put_of_not_mem {partitions : PartitionMap} {name : String}
    (fresh : name ∉ partitions.names) (value : Option String) :
    partitions.put name value = partitions ++ [(name, value)] := by
  rw [put, if_neg]
  intro known
  obtain ⟨entry, member, same⟩ := List.any_eq_true.mp known
  exact fresh (List.mem_map.mpr ⟨entry, member, beq_iff_eq.mp same⟩)

namespace Partition

variable {path : String} {directories : List (List Char)} {definitions : List PartitionDefinition}

/-- The notices of definitions that find nothing. -/
def missing (path : String) (directories : List (List Char))
    (definitions : List PartitionDefinition) : List Notice :=
  (definitions.filter fun definition => (definition.last? directories).isNone).map
    fun definition => .partitionMissing definition.name path

/-- Definitions with names of their own give what each of them finds. -/
theorem valuesIn_eq_ok {partitions : PartitionMap}
    (whole : ∀ definition ∈ definitions, ¬ definition.IsTorn directories)
    (distinct : (definitions.map (·.name)).Nodup)
    (fresh : ∀ definition ∈ definitions, definition.name ∉ partitions.names)
    (notices : List Notice) :
    valuesIn path directories notices partitions definitions =
      (notices ++ missing path directories definitions, .ok (partitions ++
        definitions.map fun definition => (definition.name, definition.last? directories))) := by
  induction definitions generalizing notices partitions with
  | nil => simp [valuesIn, missing]
  | cons definition rest ih =>
    obtain ⟨here, later⟩ := List.forall_mem_cons.mp whole
    obtain ⟨own, others⟩ := List.nodup_cons.mp distinct
    obtain ⟨new, news⟩ := List.forall_mem_cons.mp fresh
    have apart : ∀ other ∈ rest,
        other.name ∉ (partitions ++ [(definition.name, definition.last? directories)]).names := by
      intro other member known
      rw [PartitionMap.names, List.map_append] at known
      obtain known | known := List.mem_append.mp known
      · exact news other member known
      · rw [List.map_singleton, List.mem_singleton] at known
        exact own (List.mem_map.mpr ⟨other, member, known⟩)
    rw [valuesIn, PartitionDefinition.valueIn_eq_ok here, Option.or_none]
    simp only
    rw [PartitionMap.put_of_not_mem new, ih later others apart, List.append_assoc,
      List.append_assoc]
    cases found : definition.last? directories <;> simp [missing, found]

/-- One definition that is torn ends all of them. -/
theorem valuesIn_eq_error (torn : ∃ definition ∈ definitions, definition.IsTorn directories)
    (notices : List Notice) (partitions : PartitionMap) :
    (valuesIn path directories notices partitions definitions).2 =
      .error (.broken .illTyped) := by
  induction definitions generalizing notices partitions with
  | nil =>
    obtain ⟨_, member, _⟩ := torn
    cases member
  | cons definition rest ih =>
    rw [valuesIn]
    by_cases here : definition.IsTorn directories
    · rw [PartitionDefinition.valueIn_eq_error here]
    · obtain ⟨other, member, there⟩ := torn
      obtain rfl | member := List.mem_cons.mp member
      · exact absurd there here
      · rw [PartitionDefinition.valueIn_eq_ok here]
        exact ih ⟨other, member, there⟩ _ _

end Partition

end OrcRows
