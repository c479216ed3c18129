/-!
# Pieces between separators

A text is cut at every separator; the pieces between neighbouring separators may be empty. Joining
the pieces of one separator gives back the text.
-/

namespace OrcRows.Pieces

/-- The pieces of a text between separators; there is always at least one. -/
def cut (separates : Char → Bool) : List Char → List (List Char)
  | [] => [[]]
  | c :: rest =>
    if separates c then [] :: cut separates rest
    else
      match cut separates rest with
      | piece :: pieces => (c :: piece) :: pieces
      | [] => [[c]]

/-- A text without separators is its only piece. -/
theorem cut_of_none {separates : Char → Bool} {text : List Char}
    (none : ∀ c ∈ text, separates c = false) : cut separates text = [text] := by
  induction text with
  | nil => rfl
  | cons c rest ih =>
    have head := none c (by simp)
    have tail := ih fun d member => none d (by simp [member])
    simp [cut, head, tail]

/-- There is at least one piece. -/
theorem cut_ne_nil (separates : Char → Bool) (text : List Char) : cut separates text ≠ [] := by
  induction text with
  | nil => simp [cut]
  | cons c rest ih =>
    simp only [cut]
    split
    · simp
    · split <;> simp

/-- No piece contains a separator. -/
theorem not_separates_of_mem_cut {separates : Char → Bool} {text piece : List Char}
    (member : piece ∈ cut separates text) : ∀ c ∈ piece, separates c = false := by
  induction text generalizing piece with
  | nil =>
    intro c inside
    simp [cut] at member
    simp [member] at inside
  | cons d rest ih =>
    simp only [cut] at member
    split at member
    · rcases List.mem_cons.1 member with rfl | member
      · intro c inside
        simp at inside
      · exact ih member
    · rename_i plain
      split at member
      · rename_i first others pieces
        rcases List.mem_cons.1 member with rfl | member
        · intro c inside
          rcases List.mem_cons.1 inside with rfl | inside
          · simpa using plain
          · exact ih (by simp [pieces]) c inside
        · exact ih (by simp [pieces, member])
      · intro c inside
        simp at member
        simp [member] at inside
        simpa [inside] using plain

end OrcRows.Pieces
