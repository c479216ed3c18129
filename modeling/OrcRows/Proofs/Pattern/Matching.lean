import OrcRows.Pattern.Match
import Mathlib.Data.List.TakeWhile

/-!
# What matchers of sequences, letters and runs do

A sequence of patterns hands every place on to the rest of the sequence. Letters lead to one place
at most, behind them; a greedy repetition of single characters comes to the end of their run first,
and nowhere else if what follows fails in front of it.
-/

namespace OrcRows

namespace Cursor

/-- No character is passed. -/
@[simp] theorem advance_zero (cursor : Cursor) : cursor.advance 0 = cursor := rfl

/-- What follows a passed text. -/
@[simp] theorem advance_after (cursor : Cursor) (count : Nat) :
    (cursor.advance count).after = cursor.after.drop count := rfl

/-- Characters are passed one part after the other. -/
theorem advance_advance (cursor : Cursor) (first second : Nat) :
    (cursor.advance first).advance second = cursor.advance (first + second) := by
  simp only [advance, List.drop_drop, List.take_add, List.reverse_append, List.append_assoc]

end Cursor

namespace Pattern

/-- One character and no other. -/
def literal (c : Char) : Pattern := one ⟨[.range c.toNat c.toNat], false, .distinct⟩

/-- A character counts for itself only. -/
theorem holds_literal (c d : Char) :
    (⟨[.range c.toNat c.toNat], false, .distinct⟩ : CharSet).holds d = (c == d) := by
  have same : (c == d) = decide (c.toNat ≤ d.toNat ∧ d.toNat ≤ c.toNat) := by
    rw [beq_eq_decide, decide_eq_decide, ← Nat.le_antisymm_iff, Char.toNat_inj]
  simp [CharSet.holds, SetItem.holds, Casing.variants, same]

section

variable {cursor : Cursor} {next : Cursor → Option Cursor}

/-- A sequence hands every place on to its rest. -/
theorem matcher_concat_cons (pattern : Pattern) (rest : List Pattern) :
    (concat (pattern :: rest)).matcher cursor next =
      pattern.matcher cursor fun reached => (concat rest).matcher reached next := by
  cases rest <;> simp only [concat, matcher]

/-- Letters are passed together. -/
theorem matcher_concat_literals (letters : List Char) (rest : List Pattern) :
    (concat (letters.map literal ++ rest)).matcher cursor next =
      if letters.isPrefixOf cursor.after then
        (concat rest).matcher (cursor.advance letters.length) next
      else none := by
  induction letters generalizing cursor with
  | nil => simp
  | cons c letters ih =>
    rw [List.map_cons, List.cons_append, matcher_concat_cons, literal, matcher]
    cases hafter : cursor.after with
    | nil => rfl
    | cons d after =>
      simp only [holds_literal, List.isPrefixOf_cons_cons]
      by_cases same : c = d
      · have further : (cursor.advance 1).after = after := by
          rw [Cursor.advance_after, hafter, List.drop_one, List.tail_cons]
        rw [ih, further, Cursor.advance_advance, Nat.add_comm, same]
        simp
      · simp [same]

/-- The rounds of a greedy repetition of single characters end behind the run of those that the set
holds, if what follows fails in front of every one of them. -/
theorem rounds_run {set : CharSet} {fuel : Nat} {previous : Option Nat}
    (enough : cursor.after.length < fuel) (apart : previous ≠ some cursor.after.length)
    (short : ∀ count < (cursor.after.takeWhile set.holds).length,
      next (cursor.advance count) = none) :
    rounds (one set).matcher true fuel 0 none previous cursor next =
      next (cursor.advance (cursor.after.takeWhile set.holds).length) := by
  induction fuel generalizing cursor previous with
  | zero => omega
  | succ fuel ih =>
    rw [rounds, if_pos rfl, if_neg (by simpa using apart), matcher]
    cases hafter : cursor.after with
    | nil => rfl
    | cons c after =>
      rw [hafter] at short enough
      by_cases held : set.holds c
      · have further : (cursor.advance 1).after = after := by
          rw [Cursor.advance_after, hafter, List.drop_one, List.tail_cons]
        rw [List.takeWhile_cons_of_pos held, List.length_cons] at short ⊢
        have onward : rounds (one set).matcher true fuel 0 none (some (after.length + 1))
            (cursor.advance 1) next =
              next (cursor.advance ((after.takeWhile set.holds).length + 1)) := by
          rw [ih (by rw [further]; simpa using enough) (by rw [further]; simp), further,
            Cursor.advance_advance, Nat.add_comm]
          intro count within
          rw [further] at within
          rw [Cursor.advance_advance]
          exact short (1 + count) (by omega)
        simp only [held, if_true, Option.map_none, List.length_cons, onward]
        cases hnext : next (cursor.advance ((after.takeWhile set.holds).length + 1)) with
        | some found => rfl
        | none => exact short 0 (by omega)
      · rw [List.takeWhile_cons_of_neg held]
        simp [held]

end

end Pattern

end OrcRows
