import OrcRows.Proofs.TypeReports
import OrcRows.Proofs.Session.Planning

/-!
# Steps of a session that report nothing

Reading a file, finding the partitions of its path and planning its columns break down at most:
none of them makes a report.
-/

namespace OrcRows

/-- The settings of an object store come without reports. -/
theorem FileSystem.onlyBreaks_ofHandle (directory : String) (handle : Handle) :
    (ofHandle directory handle).OnlyBreaks := by
  have hsettings : (storeSettings handle.access).OnlyBreaks := by
    rw [storeSettings]
    cases handle.access.endpoint with
    | none => trivial
    | some endpoint =>
      have hendpoint : (endpointSettings endpoint).OnlyBreaks :=
        (Outcome.onlyBreaks_ofOption _ _).bind fun parts => by split <;> trivial
      exact hendpoint.bind fun _ => trivial
  rw [ofHandle]
  split
  · exact hsettings.bind fun _ => trivial
  · split <;> trivial

/-- Reading a file reports nothing. -/
theorem Storage.onlyBreaks_read (storage : Storage) (handle : Handle) :
    (storage.read handle).OnlyBreaks := by
  refine (FileSystem.onlyBreaks_ofHandle storage.directory handle).bind fun system => ?_
  cases system with
  | disk path =>
    simp only
    split
    · trivial
    · exact Outcome.onlyBreaks_ofOption _ _
  | objectStore settings path => trivial
  | other uri => trivial

namespace Partition

/-- Looking for the value of a partition reports nothing. -/
theorem onlyBreaks_valueIn (definition : PartitionDefinition) (found : Option String)
    (directories : List (List Char)) : (definition.valueIn found directories).OnlyBreaks := by
  induction directories generalizing found with
  | nil => trivial
  | cons segment rest ih =>
    rw [PartitionDefinition.valueIn]
    split
    · exact ih found
    · trivial
    · exact ih _

/-- Looking for the values of partitions reports nothing. -/
theorem onlyBreaks_valuesIn (path : String) (directories : List (List Char))
    (notices : List Notice) (partitions : PartitionMap) (definitions : List PartitionDefinition) :
    (valuesIn path directories notices partitions definitions).2.OnlyBreaks := by
  induction definitions generalizing notices partitions with
  | nil => trivial
  | cons definition rest ih =>
    have hvalue := onlyBreaks_valueIn definition none directories
    rw [valuesIn]
    cases given : definition.valueIn none directories with
    | error fault =>
      rw [given] at hvalue
      exact hvalue
    | ok value => exact ih _ _

/-- Finding partitions in a path reports nothing. -/
theorem onlyBreaks_ofPath (path : String) (definitions : List PartitionDefinition) :
    (ofPath path definitions).2.OnlyBreaks := by
  have hdirectories : (directories path).OnlyBreaks :=
    (Outcome.onlyBreaks_ofOption _ _).bind fun _ => trivial
  rw [ofPath]
  cases given : directories path with
  | error fault =>
    rw [given] at hdirectories
    exact hdirectories
  | ok segments => exact onlyBreaks_valuesIn path segments [] [] definitions

end Partition

/-- Finding the partitions of a request reports nothing. -/
theorem ReadRequest.onlyBreaks_foundPartitions (request : ReadRequest) :
    request.foundPartitions.OnlyBreaks := by
  rw [foundPartitions]
  split
  · trivial
  · split
    · exact (Partition.onlyBreaks_ofPath _ _).map
    · trivial

/-- Planning columns reports nothing. -/
theorem Session.onlyBreaks_planColumns (native : NativeType) (columns : Schema) :
    (planColumns native columns).OnlyBreaks := by
  refine Outcome.Ends.mapM fun field _ => ?_
  have hplan : Outcome.OnlyBreaks (do
      let declared ← Outcome.ofOption .badValue (native.column? field.1)
      return (⟨field.1, ← declared, field.2⟩ : PlanColumn)) := by
    cases found : native.column? field.1 with
    | none => trivial
    | some declared => exact (native.onlyBreaks_of_column? found).bind fun _ => trivial
  exact hplan

end OrcRows
