/-!
# Positions counted from either end

Column storage is addressed by integers. Position `0` is the first entry, `-1` the last one, and a
position outside `-n … n - 1` of `n` entries designates nothing. The lemmas say which entry a
position designates, so that later proofs never unfold the look-up.
-/

namespace OrcRows.Position

/-- The entry at a position; a negative position counts back from the end. -/
def get? {α : Type} (entries : List α) : Int → Option α
  | .ofNat n => entries[n]?
  | .negSucc n => if n < entries.length then entries[entries.length - 1 - n]? else none

/-- A natural position counts from the front. -/
@[simp] theorem get?_ofNat {α : Type} (entries : List α) (n : Nat) :
    get? entries (n : Int) = entries[n]? := rfl

/-- Position `-1` is the last entry. -/
theorem get?_neg_one {α : Type} (entries : List α) :
    get? entries (-1) = entries.getLast? := by
  change (if 0 < entries.length then entries[entries.length - 1 - 0]? else none) = _
  cases entries <;> simp [List.getLast?_eq_getElem?]

/-- A position designates an entry exactly when it lies in `-n … n - 1`. -/
theorem get?_isSome_iff {α : Type} (entries : List α) (position : Int) :
    (get? entries position).isSome ↔
      -(entries.length : Int) ≤ position ∧ position < entries.length := by
  cases position with
  | ofNat n =>
    simp [get?]
  | negSucc n =>
    simp only [get?]
    split
    · simp
      omega
    · simp
      omega

/-- Every position of storage without entries designates nothing. -/
@[simp] theorem get?_nil {α : Type} (position : Int) : get? ([] : List α) position = none := by
  cases position <;> simp [get?]

end OrcRows.Position
