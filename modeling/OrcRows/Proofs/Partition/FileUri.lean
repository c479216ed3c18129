import OrcRows.Proofs.Location.FileUri
import OrcRows.Proofs.Partition.Named
import OrcRows.Proofs.Session.Planning

/-!
# Partitions of files that are named by locations

The directories of a location are taken as they are written, and an equals sign is written as an
escape. So no directory in the location of a file begins with a name and an equals sign, whatever
the directories of the file are called: definitions without patterns find nothing there.
-/

namespace OrcRows

namespace PartitionDefinition

variable {definition : PartitionDefinition}

/-- Nothing is found in directories without equals signs. -/
theorem last?_eq_none (unwritten : definition.pattern = none) {directories : List (List Char)}
    (unnamed : ∀ directory ∈ directories, '=' ∉ directory) :
    definition.last? directories = none := by
  have nothing : ∀ directory ∈ directories.reverse, (definition.find? directory).join = none := by
    intro directory member
    have apart : ¬ (definition.name.toList ++ ['=']).isPrefixOf directory = true := by
      rw [List.isPrefixOf_iff_prefix]
      exact fun named => unnamed directory (List.mem_reverse.mp member) (named.subset (by simp))
    simp only [find?, unwritten, namedValue?, if_neg apart]
    rfl
  rw [last?, List.findSome?_eq_none_iff.mpr nothing]
  rfl

/-- No name is found exactly if no directory begins with it and an equals sign. -/
theorem lastNamed?_eq_none_iff {name : List Char} {folders : List (List Char)} :
    lastNamed? name folders = none ↔ ∀ folder ∈ folders, ¬ (name ++ ['=']) <+: folder := by
  simp [lastNamed?]

end PartitionDefinition

namespace Partition

variable {path written : String} {definitions : List PartitionDefinition}

/-- The directories in the location of a file are the names in what is written for its path. -/
theorem directories_file (location : Uri.WritesPath path.toList written.toList)
    (rooted : path.toList.head? = some '/') :
    directories ("file://" ++ written) = .ok (folders written) := by
  have parted := Uri.ofText?_file location rooted
  rw [directories, parted, folders, ← Pieces.cut_eq_splitOnP, Outcome.ofOption_some,
    Outcome.ok_bind, if_pos (show 1 < "file".length by decide)]
  rfl

/-- Definitions without patterns find nothing in the location of a file. -/
theorem ofPath_file (location : Uri.WritesPath path.toList written.toList)
    (rooted : path.toList.head? = some '/')
    (unwritten : ∀ definition ∈ definitions, definition.pattern = none)
    (distinct : (definitions.map (·.name)).Nodup) :
    (ofPath ("file://" ++ written) definitions).2 =
      .ok (definitions.map fun definition => (definition.name, none)) := by
  have unnamed : ∀ folder ∈ folders written, '=' ∉ folder := by
    intro folder member named
    exact location.not_mem_written (by decide) (mem_of_mem_folders member '=' named)
  have whole : ∀ definition ∈ definitions, ¬ definition.IsTorn (folders written) :=
    fun definition member =>
      PartitionDefinition.not_isTorn_of_unwritten (unwritten definition member) _
  rw [ofPath_of_directories (directories_file location rooted) whole distinct]
  refine congrArg Except.ok (List.map_congr_left fun definition member => ?_)
  rw [PartitionDefinition.last?_eq_none (unwritten definition member) unnamed]

end Partition

/-- What a new session that is opened on a location is told of its partitions, under options. -/
def Site.partitionsAt (site : Site) (environment : List (String × String)) (options : ReaderOptions)
    (location : String) : Outcome (List String × PartitionMap) := do
  let handle ← Handle.ofUri environment location
  (Session.start site ⟨handle, options, none, none, none⟩).resolvePartitions.1

/-- Partitions that are merged are found in the location as it was given. -/
theorem Site.partitionsAt_eq {site : Site} {environment : List (String × String)}
    {options : ReaderOptions} {location : String} {handle : Handle}
    (merges : options.mergesPartitions = true)
    (made : Handle.ofUri environment location = .ok handle) :
    site.partitionsAt environment options location =
      (Partition.ofPath location options.definitions).2.map fun values =>
        (options.partitionNames, values) := by
  rw [partitionsAt, made, Outcome.ok_bind,
    (Session.follows_start (.refl site)).resolvePartitions_fst, ReadRequest.foundPartitions]
  simp only [merges, if_true, Handle.uri_of_ofUri made]

open PartitionDefinition in
/-- The handle of a file's location has the path of the file, but definitions without patterns find
no values in the location, while in the path they find those of its directories. So the partitions
are the same exactly if no directory of the path begins with a name and an equals sign. -/
theorem partitionsAt_file {path written : String} (rooted : IsRooted path)
    (location : Uri.WritesPath path.toList written.toList) (site : Site)
    (environment : List (String × String)) {options : ReaderOptions}
    (merges : options.mergesPartitions = true)
    (unwritten : ∀ definition ∈ options.definitions, definition.pattern = none) :
    (∃ handle, Handle.ofUri environment ("file://" ++ written) = .ok handle ∧
      handle.path = path) ∧
    site.partitionsAt environment options path =
      .ok (options.partitionNames, options.definitions.map fun definition =>
        (definition.name, definition.last? (Partition.folders path))) ∧
    site.partitionsAt environment options ("file://" ++ written) =
      .ok (options.partitionNames, options.definitions.map fun definition =>
        (definition.name, none)) ∧
    (site.partitionsAt environment options ("file://" ++ written) =
        site.partitionsAt environment options path ↔
      ∀ definition ∈ options.definitions, ∀ folder ∈ Partition.folders path,
        ¬ (definition.name.toList ++ ['=']) <+: folder) := by
  obtain ⟨rest, front, _⟩ := rooted.slash
  have slash : path.toList.head? = some '/' := by rw [front]; rfl
  obtain ⟨parts, split, _⟩ := Uri.exists_ofText?_of_isRooted rooted
  obtain ⟨handle, made⟩ : ∃ handle, Handle.ofUri environment path = .ok handle := by
    rw [Handle.ofUri, split]
    exact ⟨_, rfl⟩
  have madeToo := Handle.ofUri_file environment location slash
  have whole : ∀ definition ∈ options.definitions, ¬ definition.IsTorn (Partition.folders path) :=
    fun definition member => definition.not_isTorn_of_unwritten (unwritten definition member) _
  rw [Site.partitionsAt_eq merges made, Site.partitionsAt_eq merges madeToo,
    Partition.ofPath_eq_ok rooted whole options.partitionsDistinct,
    Partition.ofPath_file location slash unwritten options.partitionsDistinct]
  refine ⟨⟨_, madeToo, rfl⟩, rfl, rfl, ?_⟩
  simp only [Except.map, Except.ok.injEq, Prod.mk.injEq, true_and, List.map_inj_left]
  refine forall₂_congr fun definition member => ?_
  rw [eq_comm, last?_folders (unwritten definition member) rooted, Option.map_eq_none_iff,
    lastNamed?_eq_none_iff]

/-- A place without files. -/
def bareSite : Site := .start ⟨"/", []⟩ (.table .malformed)

/-- Options that merge a city. -/
def cityOptions : ReaderOptions where
  encoding := .utf8
  selected := none
  mergesPartitions := true
  definitions := [Partition.cityDefinition]
  keepsImages := false
  columnsDistinct := by decide
  partitionsDistinct := by decide
  mergesSome := by decide

/-- A path with a blank and an equals sign is written with escapes for both. -/
theorem writesPath_city : Uri.WritesPath "/my data/city=Oslo/f.orc".toList
    "/my%20data/city%3DOslo/f.orc".toList :=
  show Uri.WritesPath
      ("/my".toList ++ ' ' :: ("data/city".toList ++ '=' :: "Oslo/f.orc".toList))
      ("/my".toList ++ ("%20".toList ++ ("data/city".toList ++ ("%3D".toList ++
        "Oslo/f.orc".toList)))) from
    .append (.of_free (forall_mem_of_all rfl)) (.escaped (by decide) (.cons rfl rfl .nil)
      (.append (.of_free (forall_mem_of_all rfl)) (.escaped (by decide) (.cons rfl rfl .nil)
        (.of_free (forall_mem_of_all rfl)))))

/-- The city is found in the path of a file and not in its location. -/
theorem city_not_in_location :
    IsRooted "/my data/city=Oslo/f.orc" ∧
      Uri.WritesPath "/my data/city=Oslo/f.orc".toList "/my%20data/city%3DOslo/f.orc".toList ∧
      bareSite.partitionsAt [] cityOptions "/my data/city=Oslo/f.orc" =
        .ok (["city"], [("city", some "Oslo")]) ∧
      bareSite.partitionsAt [] cityOptions "file:///my%20data/city%3DOslo/f.orc" =
        .ok (["city"], [("city", none)]) :=
  ⟨.of_all rfl (by decide) rfl, writesPath_city, rfl, rfl⟩

/-- The handle of the location has the path, and the partitions of both differ. -/
theorem partitionsAt_file_city :
    IsRooted "/my data/city=Oslo/f.orc" ∧ cityOptions.mergesPartitions = true ∧
      (∀ definition ∈ cityOptions.definitions, definition.pattern = none) ∧
      (∃ handle, Handle.ofUri [] ("file://" ++ "/my%20data/city%3DOslo/f.orc") = .ok handle ∧
        handle.path = "/my data/city=Oslo/f.orc") ∧
      bareSite.partitionsAt [] cityOptions ("file://" ++ "/my%20data/city%3DOslo/f.orc") ≠
        bareSite.partitionsAt [] cityOptions "/my data/city=Oslo/f.orc" := by
  have rooted : IsRooted "/my data/city=Oslo/f.orc" := .of_all rfl (by decide) rfl
  have unwritten : ∀ definition ∈ cityOptions.definitions, definition.pattern = none := by
    simp [cityOptions, Partition.cityDefinition]
  obtain ⟨handle, _, _, same⟩ := partitionsAt_file rooted writesPath_city bareSite [] rfl unwritten
  refine ⟨rooted, rfl, unwritten, handle, fun equal => ?_⟩
  exact same.mp equal _ List.mem_cons_self "city=Oslo".toList (by decide) (by decide)

end OrcRows
