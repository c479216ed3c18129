import OrcRows.Partition
import OrcRows.Proofs.Location.Parts
import OrcRows.Proofs.Outcome

/-!
# Directories of rooted paths

A path with one slash at its front and no control characters has neither scheme nor host, so it can
always be split, and its directories are those of the text itself: the pieces between separators
that are not empty, without the last one.
-/

namespace OrcRows

namespace Pieces

/-- The pieces of a text are those of the library's split. -/
theorem cut_eq_splitOnP (separates : Char → Bool) (text : List Char) :
    cut separates text = text.splitOnP separates := by
  induction text with
  | nil => rfl
  | cons c text ih =>
    rw [cut, ih, List.splitOnP_cons_eq_if_modifyHead]
    obtain ⟨piece, pieces, hpieces⟩ :=
      List.exists_cons_of_ne_nil (List.splitOnP_ne_nil separates text)
    rw [hpieces]
    rfl

/-- The characters of a piece are characters of the text. -/
theorem mem_of_mem_cut {separates : Char → Bool} {text piece : List Char}
    (member : piece ∈ cut separates text) : ∀ c ∈ piece, c ∈ text := by
  induction text generalizing piece with
  | nil =>
    rw [cut, List.mem_singleton] at member
    simp [member]
  | cons d text ih =>
    rw [cut] at member
    split at member
    · obtain rfl | member := List.mem_cons.mp member
      · simp
      · exact fun c inside => List.mem_cons_of_mem d (ih member c inside)
    · obtain ⟨first, pieces, hpieces⟩ := List.exists_cons_of_ne_nil (cut_ne_nil separates text)
      rw [hpieces] at member ih
      obtain rfl | member := List.mem_cons.mp member
      · intro c inside
        obtain rfl | inside := List.mem_cons.mp inside
        · exact List.mem_cons_self
        · exact List.mem_cons_of_mem d (ih List.mem_cons_self c inside)
      · exact fun c inside =>
          List.mem_cons_of_mem d (ih (List.mem_cons_of_mem first member) c inside)

end Pieces

/-- A path from the root: there is one slash at its front, and no control character in it. -/
structure IsRooted (path : String) : Prop where
  /-- Exactly one slash stands at the front. -/
  slash : ∃ rest, path.toList = '/' :: rest ∧ rest.head? ≠ some '/'
  /-- Every character is a blank or comes behind it. -/
  plain : ∀ c ∈ path.toList, 0x20 ≤ c.toNat

/-- Whether a path is one from the root can be computed. -/
theorem IsRooted.of_all {path : String} {rest : List Char} (front : path.toList = '/' :: rest)
    (single : rest.head? ≠ some '/')
    (plain : path.toList.all (fun c => decide (0x20 ≤ c.toNat)) = true) : IsRooted path where
  slash := ⟨rest, front, single⟩
  plain c member := of_decide_eq_true (List.all_eq_true.mp plain c member)

namespace Uri

/-- Nothing of a rooted path is skipped. -/
theorem legible_of_isRooted {path : String} (h : IsRooted path) : legible path = path.toList := by
  obtain ⟨rest, front, _⟩ := h.slash
  refine legible_eq_toList front (by decide) fun c member => ?_
  have code := h.plain c member
  refine ⟨?_, ?_, ?_⟩ <;> rintro rfl <;> exact absurd code (by decide)

/-- A text that begins with a slash has no scheme. -/
theorem splitScheme_slash (rest : List Char) :
    splitScheme ('/' :: rest) = ([], '/' :: rest) := by
  have front : ('/' :: rest).takeWhile (fun c => decide (c ≠ ':')) =
      '/' :: rest.takeWhile (fun c => decide (c ≠ ':')) := List.takeWhile_cons_of_pos rfl
  rw [splitScheme]
  simp only [front]
  split
  · exact if_neg fun letters => Bool.false_ne_true letters.1
  · rfl

/-- A rooted path has no scheme. -/
theorem exists_ofText?_of_isRooted {path : String} (h : IsRooted path) :
    ∃ uri, ofText? path = some uri ∧ uri.scheme = "" := by
  obtain ⟨rest, front, single⟩ := h.slash
  have host : splitHost ('/' :: rest) = ([], '/' :: rest) := by
    rw [splitHost.eq_def]
    split
    next same =>
      cases same
      exact absurd rfl single
    next => rfl
  have sound : isSoundHost [] = true := rfl
  rw [ofText?, legible_of_isRooted h, front, splitScheme_slash]
  simp only [host, sound, if_true]
  exact ⟨_, rfl, rfl⟩

end Uri

namespace Partition

/-- The names in a path, without the file name: the pieces between slashes and backslashes that are
not empty, but for the last one. -/
def folders (path : String) : List (List Char) :=
  ((path.toList.splitOnP fun c => c == '/' || c == '\\').filter (!·.isEmpty)).dropLast

/-- The directories of a rooted path are the names in it. -/
theorem directories_of_isRooted {path : String} (h : IsRooted path) :
    directories path = .ok (folders path) := by
  obtain ⟨uri, parts, scheme⟩ := Uri.exists_ofText?_of_isRooted h
  rw [directories, parts, folders, ← Pieces.cut_eq_splitOnP, Outcome.ofOption_some,
    Outcome.ok_bind, if_neg (by rw [scheme]; decide)]
  rfl

/-- The characters of a directory are characters of the path. -/
theorem mem_of_mem_folders {path : String} {folder : List Char} (member : folder ∈ folders path) :
    ∀ c ∈ folder, c ∈ path.toList := by
  rw [folders, ← Pieces.cut_eq_splitOnP] at member
  exact Pieces.mem_of_mem_cut (List.mem_filter.mp (List.dropLast_subset _ member)).1

end Partition

end OrcRows
