import Mathlib.Data.List.TakeWhile
import OrcRows.Location.Uri
import OrcRows.Proofs.Text.Characters

/-!
# Parts of a location with a scheme

A location is written as a scheme, a colon, two slashes, a host and a path. Nothing is skipped in it
if it holds no tabs and no line breaks, so each part is found again; only the path may lose its end,
from the first question mark or number sign on.
-/

namespace OrcRows.Uri

/-- A location that begins with a visible character and has no tabs and no line breaks is read as it
stands. -/
theorem legible_eq_toList {text : String} {first : Char} {rest : List Char}
    (front : text.toList = first :: rest) (visible : 0x20 < first.toNat)
    (plain : ∀ c ∈ text.toList, c ≠ '\t' ∧ c ≠ '\r' ∧ c ≠ '\n') : legible text = text.toList := by
  have kept : text.toList.dropWhile (fun c => decide (c.toNat ≤ 0x20)) = text.toList := by
    rw [front]
    exact List.dropWhile_cons_of_neg (by simpa using visible)
  rw [legible, kept, List.filter_eq_self]
  intro c member
  obtain ⟨tab, back, line⟩ := plain c member
  simp [tab, back, line]

/-- A colon behind a letter and characters of a scheme ends a scheme. -/
theorem splitScheme_append {scheme : List Char} (letter : scheme.head?.any Char.isAlpha = true)
    (all : scheme.all isSchemeChar = true) (rest : List Char) :
    splitScheme (scheme ++ ':' :: rest) = (scheme.map Char.toLower, rest) := by
  have mark : ∀ c ∈ scheme, decide (c ≠ ':') = true := by
    intro c member
    rw [decide_eq_true_eq]
    rintro rfl
    exact absurd (List.all_eq_true.mp all _ member) (by decide)
  have before : (scheme ++ ':' :: rest).takeWhile (fun c => decide (c ≠ ':')) = scheme := by
    rw [List.takeWhile_append_of_pos mark]
    simp
  have behind : (scheme ++ ':' :: rest).dropWhile (fun c => decide (c ≠ ':')) = ':' :: rest := by
    rw [List.dropWhile_append_of_pos mark]
    simp
  rw [splitScheme]
  simp only [before, behind]
  exact if_pos ⟨letter, all⟩

/-- A character that ends a host. -/
def endsHost (c : Char) : Bool := c == '/' || c == '?' || c == '#'

/-- A host ends where the path begins. -/
theorem splitHost_append {host path : List Char} (inner : ∀ c ∈ host, endsHost c = false)
    (rooted : path.head? = some '/') : splitHost ('/' :: '/' :: (host ++ path)) = (host, path) := by
  obtain ⟨rest, rfl⟩ : ∃ rest, path = '/' :: rest := by
    cases path with
    | nil => cases rooted
    | cons first rest => exact ⟨rest, by rw [Option.some.inj rooted]⟩
  have within : ∀ c ∈ host, (!(c == '/' || c == '?' || c == '#')) = true := by
    intro c member
    rw [← endsHost, inner c member]
    rfl
  rw [splitHost]
  simp only
  rw [List.takeWhile_append_of_pos within, List.dropWhile_append_of_pos within]
  simp

/-- What is left of a path without query and fragment. -/
def bare (path : List Char) : List Char := path.takeWhile fun c => c ≠ '?' ∧ c ≠ '#'

/-- A path has neither query nor fragment if nothing in it begins one. -/
theorem bare_eq_self_iff {path : List Char} : bare path = path ↔ '?' ∉ path ∧ '#' ∉ path := by
  rw [bare, List.takeWhile_eq_self_iff]
  constructor
  · intro all
    exact ⟨fun member => absurd (all _ member) (by decide),
      fun member => absurd (all _ member) (by decide)⟩
  · rintro ⟨query, fragment⟩ c member
    rw [decide_eq_true_eq]
    exact ⟨fun same => query (same ▸ member), fun same => fragment (same ▸ member)⟩

/-- A host without brackets and disguised delimiters can be accepted. -/
theorem isSoundHost_of_plain {host : List Char} (opening : '[' ∉ host) (closing : ']' ∉ host)
    (undisguised : ∀ c ∈ host, c.toNat ∉ disguises) : isSoundHost host = true := by
  have brackets : hasSoundBrackets host = true := by
    have opens : host.contains '[' = false := by simpa using opening
    have closes : host.contains ']' = false := by simpa using closing
    rw [hasSoundBrackets, opens, closes]
  rw [isSoundHost, brackets, Bool.true_and, Bool.not_eq_true', List.any_eq_false]
  intro c member
  simpa using undisguised c member

/-- The parts of a location that is written with a scheme, a host and a path. -/
theorem ofText?_eq_some {text : String} {scheme host path : List Char}
    (written : text.toList = scheme ++ ("://".toList ++ (host ++ path)))
    (letter : scheme.head?.any Char.isAlpha = true) (all : scheme.all isSchemeChar = true)
    (simple : String.ofList (scheme.map Char.toLower) ∉ parameterSchemes)
    (plain : ∀ c ∈ host ++ path, c ≠ '\t' ∧ c ≠ '\r' ∧ c ≠ '\n')
    (inner : ∀ c ∈ host, endsHost c = false) (sound : isSoundHost host = true)
    (rooted : path.head? = some '/') :
    ofText? text = some ⟨String.ofList (scheme.map Char.toLower), String.ofList host,
      String.ofList (bare path)⟩ := by
  obtain ⟨first, others, rfl⟩ : ∃ first others, scheme = first :: others := by
    cases scheme with
    | nil => cases letter
    | cons first others => exact ⟨first, others, rfl⟩
  have unbroken : ∀ c ∈ text.toList, c ≠ '\t' ∧ c ≠ '\r' ∧ c ≠ '\n' := by
    intro c member
    rw [written, List.mem_append, List.mem_append] at member
    obtain front | marks | rest := member
    · have inScheme := List.all_eq_true.mp all c front
      refine ⟨?_, ?_, ?_⟩ <;> rintro rfl <;> exact absurd inScheme (by decide)
    · have inMarks : ∀ c ∈ "://".toList, c ≠ '\t' ∧ c ≠ '\r' ∧ c ≠ '\n' := forall_mem_of_all rfl
      exact inMarks c marks
    · exact plain c rest
  have cut : (path.takeWhile (· ≠ '#')).takeWhile (· ≠ '?') = bare path := by
    rw [List.takeWhile_takeWhile, bare]
    simp
  have unlisted : parameterSchemes.contains
      (String.ofList ((first :: others).map Char.toLower)) = false := by
    simpa using simple
  have parted : splitScheme ((first :: others) ++ ("://".toList ++ (host ++ path))) =
      ((first :: others).map Char.toLower, '/' :: '/' :: (host ++ path)) :=
    splitScheme_append letter all _
  rw [ofText?, legible_eq_toList written (lt_toNat_of_isAlpha letter) unbroken, written, parted]
  simp only [splitHost_append inner rooted, sound, if_true, unlisted, cut]
  rfl

end OrcRows.Uri
