import OrcRows.Text.CharClass
import OrcRows.Text.Quoted

/-!
# Characters by their codes

What is asked of the characters with small codes is asked of numbers, and can be computed.
-/

namespace OrcRows

/-- A property of all characters with codes below a bound. -/
theorem forall_char_lt (P : Char → Prop) {bound : Nat} (all : ∀ code < bound, P (Char.ofNat code))
    {c : Char} (small : c.toNat < bound) : P c := by
  have here := all c.toNat small
  rwa [Char.ofNat_toNat] at here

/-- A property of all characters of a text can be computed one by one. -/
theorem forall_mem_of_all {P : Char → Prop} [DecidablePred P] {text : List Char}
    (all : text.all (fun c => decide (P c)) = true) : ∀ c ∈ text, P c :=
  fun c member => of_decide_eq_true (List.all_eq_true.mp all c member)

/-- Letters are visible. -/
theorem lt_toNat_of_isAlpha {c : Char} (letter : c.isAlpha = true) : 0x20 < c.toNat := by
  refine Nat.lt_of_not_le fun low => ?_
  exact forall_char_lt (fun c => ¬ c.isAlpha = true) (by decide) (Nat.lt_succ_of_le low) letter

/-- Hexadecimal digits are letters and digits. -/
theorem isAlphanum_of_hexValue? {c : Char} {value : Nat}
    (digit : CharClass.hexValue? c = some value) : c.isAlphanum = true := by
  have listed : (CharClass.hexValue? c).isSome = true := by rw [digit]; rfl
  have small : c.toNat < 128 := by
    rw [CharClass.hexValue?] at digit
    split at digit
    next decimal => exact Nat.lt_of_le_of_lt decimal.2 (by decide)
    split at digit
    next lower => exact Nat.lt_of_le_of_lt lower.2 (by decide)
    split at digit
    next upper => exact Nat.lt_of_le_of_lt upper.2 (by decide)
    cases digit
  exact forall_char_lt (fun c => (CharClass.hexValue? c).isSome = true → c.isAlphanum = true)
    (by decide) small listed

/-- The hexadecimal digits of a code are printable. -/
theorem isPlainByte_of_mem_toDigits {code : Nat} {c : Char} (member : c ∈ Nat.toDigits 16 code) :
    Quoted.isPlainByte c = true := by
  have digit (value : Nat) : Quoted.isPlainByte value.digitChar = true := by
    by_cases small : value < 16
    · revert value
      decide
    · rw [Nat.digitChar_eq_star.mpr (by omega)]
      rfl
  induction code using Nat.strongRecOn with
  | _ code ih =>
    rw [Nat.toDigits_eq_if (by decide)] at member
    split at member
    · rw [List.mem_singleton.mp member]
      exact digit code
    · obtain member | last := List.mem_append.mp member
      · exact ih (code / 16) (by omega) member
      · rw [List.mem_singleton.mp last]
        exact digit _

end OrcRows
