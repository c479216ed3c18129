import OrcRows.Location.Handle
import OrcRows.Proofs.Location.Parts
import OrcRows.Proofs.Outcome
import OrcRows.Proofs.Text.Percent

/-!
# Locations of local files

A local path becomes a location when everything in it but unreserved characters and slashes is
escaped. No character of such a location has a meaning of its own, so the handle of the location has
the path back.
-/

namespace OrcRows

namespace Uri

/-- A character that stands for itself in every part of a location. -/
def isUnreserved (c : Char) : Bool :=
  c.isAlphanum || c == '-' || c == '.' || c == '_' || c == '~'

/-- Ways to write a path in a location: unreserved characters and slashes stand for themselves, and
the bytes of all others are escaped, in digits of either case. -/
inductive WritesPath : List Char → List Char → Prop
  | nil : WritesPath [] []
  | plain {c : Char} {path written : List Char} (free : isUnreserved c = true ∨ c = '/')
      (rest : WritesPath path written) : WritesPath (c :: path) (c :: written)
  | escaped {c : Char} {path escape written : List Char}
      (reserved : ¬ (isUnreserved c = true ∨ c = '/'))
      (bytes : Percent.Escapes (Utf8.encodeChar c) escape) (rest : WritesPath path written) :
      WritesPath (c :: path) (escape ++ written)

/-- Hexadecimal digits are unreserved. -/
theorem isUnreserved_of_hexValue? {c : Char} {value : Nat}
    (digit : CharClass.hexValue? c = some value) : isUnreserved c = true := by
  rw [isUnreserved, isAlphanum_of_hexValue? digit]
  rfl

/-- Escapes are percent signs and unreserved characters. -/
theorem mem_escapes {bytes : List UInt8} {escape : List Char} (h : Percent.Escapes bytes escape) :
    ∀ c ∈ escape, isUnreserved c = true ∨ c = '%' := by
  induction h with
  | nil => simp
  | cons first second _ ih =>
    intro c member
    simp only [List.mem_cons] at member
    obtain rfl | rfl | rfl | member := member
    · exact .inr rfl
    · exact .inl (isUnreserved_of_hexValue? first)
    · exact .inl (isUnreserved_of_hexValue? second)
    · exact ih c member

namespace WritesPath

variable {path written : List Char}

/-- What is written stands for the path. -/
theorem writes (h : WritesPath path written) : Percent.Writes path written := by
  induction h with
  | nil => exact .nil
  | plain free _ ih =>
    refine .plain ?_ ih
    rintro rfl
    exact absurd free (by decide)
  | escaped _ bytes _ ih => exact .escaped bytes ih

/-- A path of unreserved characters and slashes is written as it is. -/
theorem of_free (free : ∀ c ∈ path, isUnreserved c = true ∨ c = '/') : WritesPath path path := by
  induction path with
  | nil => exact .nil
  | cons c path ih =>
    obtain ⟨here, later⟩ := List.forall_mem_cons.mp free
    exact .plain here (ih later)

/-- Parts of a path are written one behind the other. -/
theorem append {later writtenLater : List Char} (h : WritesPath path written)
    (h' : WritesPath later writtenLater) : WritesPath (path ++ later) (written ++ writtenLater) := by
  induction h with
  | nil => exact h'
  | plain free _ ih => exact .plain free ih
  | escaped reserved bytes _ ih =>
    rw [List.append_assoc]
    exact .escaped reserved bytes ih

/-- Only unreserved characters, slashes and percent signs are written. -/
theorem mem_written (h : WritesPath path written) :
    ∀ c ∈ written, isUnreserved c = true ∨ c = '/' ∨ c = '%' := by
  induction h with
  | nil => simp
  | plain free _ ih =>
    intro c member
    obtain rfl | member := List.mem_cons.mp member
    · exact free.imp_right .inl
    · exact ih c member
  | escaped _ bytes _ ih =>
    intro c member
    obtain member | member := List.mem_append.mp member
    · exact (mem_escapes bytes c member).imp_right .inr
    · exact ih c member

/-- Any other character is not written. -/
theorem not_mem_written (h : WritesPath path written) {c : Char}
    (other : ¬ (isUnreserved c = true ∨ c = '/' ∨ c = '%')) : c ∉ written :=
  fun member => other (h.mem_written c member)

/-- The slash at the front of a path is written as it is. -/
theorem head?_written (h : WritesPath path written) (rooted : path.head? = some '/') :
    written.head? = some '/' := by
  cases h with
  | nil => cases rooted
  | plain => exact rooted
  | escaped reserved =>
    cases rooted
    exact absurd (.inr rfl) reserved

end WritesPath

/-- The parts of the location of a local file. -/
theorem ofText?_file {path written : String} (h : WritesPath path.toList written.toList)
    (rooted : path.toList.head? = some '/') :
    ofText? ("file://" ++ written) = some ⟨"file", "", written⟩ := by
  have split : ("file://" ++ written).toList =
      "file".toList ++ ("://".toList ++ ([] ++ written.toList)) := String.toList_append
  have plain : ∀ c ∈ [] ++ written.toList, c ≠ '\t' ∧ c ≠ '\r' ∧ c ≠ '\n' := by
    intro c member
    refine ⟨?_, ?_, ?_⟩ <;> rintro rfl <;> exact h.not_mem_written (by decide) member
  have whole : bare written.toList = written.toList :=
    bare_eq_self_iff.mpr ⟨h.not_mem_written (by decide), h.not_mem_written (by decide)⟩
  rw [ofText?_eq_some split (by decide) (by decide) (by decide) plain (by simp) rfl
    (h.head?_written rooted), whole, String.ofList_toList]
  rfl

end Uri

/-- The handle of the location of a local file has the path of the file. -/
theorem Handle.ofUri_file (environment : List (String × String)) {path written : String}
    (h : Uri.WritesPath path.toList written.toList) (rooted : path.toList.head? = some '/') :
    Handle.ofUri environment ("file://" ++ written) = .ok ⟨"file://" ++ written, "file", path,
      Handle.hasExtension ("file://" ++ written), .none⟩ := by
  have decoded : Percent.decode written = path := by
    have := h.writes.decode
    rwa [String.ofList_toList, String.ofList_toList] at this
  have scheme : schemeOf ⟨"file", "", written⟩ = "file" :=
    if_neg (show ¬ "file".length = 1 by decide)
  rw [ofUri, Uri.ofText?_file h rooted, Outcome.ofOption_some, Outcome.ok_bind]
  simp only [scheme, decoded]
  rfl

end OrcRows
