import OrcRows.JsonForm
import OrcRows.Proofs.Number.FloatReading
import OrcRows.Proofs.Text.Characters

/-!
# JSON texts keep to printable ASCII

Whatever cannot be printed in ASCII is escaped in a quoted text, so the text of a form on one line
holds printable ASCII characters only: there is no line break in it.
-/

namespace OrcRows

/-- A text of printable ASCII characters. -/
def IsShown (text : String) : Prop := ∀ c ∈ text.toList, Quoted.isPlainByte c = true

instance (text : String) : Decidable (IsShown text) :=
  List.decidableBAll (fun c => Quoted.isPlainByte c = true) text.toList

namespace IsShown

/-- Texts are put one behind the other. -/
theorem append {front back : String} (h : IsShown front) (h' : IsShown back) :
    IsShown (front ++ back) := by
  intro c member
  rw [String.toList_append] at member
  exact (List.mem_append.mp member).elim (h c) (h' c)

/-- Texts are joined by a separator. -/
theorem intercalate {separator : String} (h : IsShown separator) {texts : List String}
    (all : ∀ text ∈ texts, IsShown text) : IsShown (separator.intercalate texts) := by
  induction texts with
  | nil => simp [IsShown]
  | cons text rest ih =>
    obtain ⟨here, later⟩ := List.forall_mem_cons.mp all
    cases rest with
    | nil => rwa [String.intercalate_singleton]
    | cons next rest =>
      rw [String.intercalate_cons_cons]
      exact (here.append h).append (ih later)

/-- Digits and the marks of numerals are printable. -/
theorem of_isPlain {text : String} (plain : ∀ c ∈ text.toList, Decimal.IsPlain c) :
    IsShown text := by
  have printable : ∀ code < 128, Decimal.IsPlain (Char.ofNat code) →
      Quoted.isPlainByte (Char.ofNat code) = true := by decide +kernel
  intro c member
  exact forall_char_lt (fun c => Decimal.IsPlain c → Quoted.isPlainByte c = true) printable
    (plain c member).toNat_lt (plain c member)

/-- There is no line break in the text. -/
theorem not_mem {text : String} (h : IsShown text) : '\n' ∉ text.toList :=
  fun member => absurd (h _ member) (by decide)

/-- Integers are written in digits behind a sign. -/
theorem int (value : Int) : IsShown (toString value) := by
  have digits (n : Nat) : IsShown n.repr := of_isPlain fun c member =>
    .inl (Decimal.isDigit_of_mem_digits (by rwa [Nat.toList_repr] at member))
  rw [Int.toString_eq_repr, Int.repr_eq_if]
  split
  · exact digits _
  · exact .append (by decide) (digits _)

end IsShown

namespace FloatLayout

/-- A decimal in positional notation is plain. -/
theorem plain_positional {shown : List Char} (digit : ∀ c ∈ shown, c.isDigit = true)
    (point : Int) : ∀ c ∈ (positional shown point).toList, Decimal.IsPlain c := by
  have mark : ∀ c ∈ ['0', '.'], Decimal.IsPlain c := forall_mem_of_all rfl
  have plain : ∀ c ∈ shown, Decimal.IsPlain c := fun c member => .inl (digit c member)
  have zero (count : Nat) : ∀ c ∈ List.replicate count '0', Decimal.IsPlain c := fun c member =>
    .inl (Decimal.isDigit_of_mem_zeros member)
  intro c member
  rw [positional] at member
  split_ifs at member
  · simp only [String.toList_append, String.toList_ofList, List.mem_append] at member
    obtain front | zeros | back := member
    · exact mark c front
    · exact zero _ c zeros
    · exact plain c back
  · simp only [String.toList_append, String.toList_ofList, List.mem_append] at member
    obtain (front | zeros) | back := member
    · exact plain c front
    · exact zero _ c zeros
    · exact mark c (List.mem_reverse.mp back)
  · simp only [String.toList_append, String.toList_ofList, List.mem_append] at member
    obtain (front | point) | back := member
    · exact plain c (List.mem_of_mem_take front)
    · exact mark c (List.mem_cons_of_mem _ point)
    · exact plain c (List.mem_of_mem_drop back)

/-- A decimal in the notation of a layout is plain. -/
theorem plain_decimalText (layout : FloatLayout) (decimal : Scientific) :
    ∀ c ∈ (layout.decimalText decimal).toList, Decimal.IsPlain c := by
  have digit : ∀ c ∈ Rounding.digits decimal.digits, c.isDigit = true := fun _ =>
    Decimal.isDigit_of_mem_digits
  rw [decimalText]
  split
  · exact plain_positional digit _
  · intro c member
    simp only [String.toList_append, String.toList_ofList, List.mem_append, or_assoc] at member
    obtain front | point | back | exponent := member
    · exact .inl (digit c (List.mem_of_mem_take front))
    · split at point
      · exact absurd point (by simp)
      · rw [List.eq_of_mem_singleton point]
        exact .inr (by decide)
    · exact .inl (digit c (List.mem_of_mem_drop back))
    · exact plain_exponentText layout _ (by simpa using exponent)

end FloatLayout

namespace JsonForm

/-- A floating-point number is written with plain characters, or in words. -/
theorem isShown_float (value : Binary64) : IsShown (value.textIn floatLayout) := by
  have sign (negative : Bool) : IsShown (FloatLayout.sign negative) := by
    cases negative <;> decide
  cases value with
  | nan => decide
  | infinite negative => exact (sign negative).append (by decide)
  | finite negative significand exponent _ =>
    rw [Binary64.textIn]
    split
    · exact (sign negative).append (by decide)
    · exact (sign negative).append (.of_isPlain (floatLayout.plain_decimalText _))

/-- A character inside quotes is printable, or escaped. -/
theorem isPlainByte_of_mem_encodeChar {c shown : Char} (member : shown ∈ encodeChar c) :
    Quoted.isPlainByte shown = true := by
  have unit (code : Nat) : ∀ shown ∈ escapeUnit code, Quoted.isPlainByte shown = true := by
    intro shown member
    rw [escapeUnit, Quoted.hex] at member
    simp only [List.mem_cons, List.mem_append] at member
    obtain rfl | rfl | zero | digit := member
    · rfl
    · rfl
    · rw [List.eq_of_mem_replicate zero]
      rfl
    · exact isPlainByte_of_mem_toDigits digit
  have letters : ∀ pair ∈ letterEscapes, Quoted.isPlainByte pair.2 = true := by decide
  rw [encodeChar] at member
  split at member
  case h_1 letter found =>
    obtain ⟨front, back, entries, _⟩ := List.lookup_eq_some_iff.mp found
    have escaped : (c, letter) ∈ letterEscapes := by simp [entries]
    simp only [List.mem_cons, List.not_mem_nil, or_false] at member
    obtain rfl | rfl := member
    · rfl
    · exact letters _ escaped
  case h_2 =>
    split at member
    case isTrue plain => rwa [List.eq_of_mem_singleton member]
    case isFalse =>
      rw [escape] at member
      simp only at member
      split at member
      · exact unit _ shown member
      · exact (List.mem_append.mp member).elim (unit _ shown) (unit _ shown)

/-- A quoted text is printable. -/
theorem isShown_quote (contents : String) : IsShown (quote contents) := by
  intro shown member
  rw [quote, String.toList_ofList] at member
  simp only [List.mem_cons, List.mem_append, List.mem_flatMap, List.not_mem_nil, or_false]
    at member
  obtain (rfl | ⟨c, _, member⟩) | rfl := member
  · rfl
  · exact isPlainByte_of_mem_encodeChar member
  · rfl

mutual

/-- The text of a form is printable. -/
theorem isShown_compact : ∀ form : JsonForm, IsShown form.compact
  | null => by decide
  | bool value => by cases value <;> decide
  | int value => .int value
  | float value => isShown_float value
  | text value => isShown_quote value
  | array elements =>
    .append (.append (by decide) (.intercalate (by decide) (isShown_compactAll elements)))
      (by decide)
  | object members =>
    .append (.append (by decide) (.intercalate (by decide) (isShown_compactMembers members)))
      (by decide)

/-- The texts of several forms are printable. -/
theorem isShown_compactAll : ∀ (forms : List JsonForm), ∀ text ∈ compactAll forms, IsShown text
  | [] => by simp [compactAll]
  | form :: rest => by
    rw [compactAll]
    exact List.forall_mem_cons.mpr ⟨isShown_compact form, isShown_compactAll rest⟩

/-- The texts of members are printable. -/
theorem isShown_compactMembers : ∀ (members : List (String × JsonForm)),
    ∀ text ∈ compactMembers members, IsShown text
  | [] => by simp [compactMembers]
  | (name, form) :: rest => by
    rw [compactMembers]
    exact List.forall_mem_cons.mpr ⟨((isShown_quote name).append (by decide)).append
      (isShown_compact form), isShown_compactMembers rest⟩

end

end JsonForm

end OrcRows
