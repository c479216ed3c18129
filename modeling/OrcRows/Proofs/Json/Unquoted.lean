import OrcRows.Proofs.Json.Grammar
import OrcRows.Proofs.Text.Characters

/-!
# What stands outside of strings

A text is read from the left, and what stands between quotes is left out. Of a JSON text brackets,
commas, colons, space, numerals and three words are left. No capital `N` or `I` is among them, so a
text in which one of these is left is no JSON text.
-/

namespace OrcRows.Json

/-- Where a reading of a text is. -/
inductive Reading where
  /-- Outside of strings. -/
  | outside
  /-- In a string. -/
  | inside
  /-- In a string, behind a backslash. -/
  | escaped

/-- What is left of a text without its strings. -/
def unquoted : Reading → List Char → List Char
  | _, [] => []
  | .outside, c :: rest =>
    if c = '"' then unquoted .inside rest else c :: unquoted .outside rest
  | .inside, c :: rest =>
    if c = '"' then unquoted .outside rest
    else if c = '\\' then unquoted .escaped rest
    else unquoted .inside rest
  | .escaped, _ :: rest => unquoted .inside rest

/-- A part of a text leaves something outside of strings, whatever comes behind it. -/
def Leaves (text bare : List Char) : Prop :=
  ∀ rest, unquoted .outside (text ++ rest) = bare ++ unquoted .outside rest

namespace Leaves

variable {text bare text' bare' : List Char}

/-- Parts leave what each of them leaves. -/
theorem append (h : Leaves text bare) (h' : Leaves text' bare') :
    Leaves (text ++ text') (bare ++ bare') := by
  intro rest
  rw [List.append_assoc, h, h', List.append_assoc]

/-- A text without quotes is left as it is. -/
theorem of_not_mem (h : '"' ∉ text) : Leaves text text := by
  intro rest
  induction text with
  | nil => rfl
  | cons c text ih =>
    rw [List.mem_cons, not_or] at h
    rw [List.cons_append, unquoted, if_neg (Ne.symm h.1), ih h.2, List.cons_append]

/-- What is left of a whole text is what it leaves. -/
theorem unquoted_eq (h : Leaves text bare) : unquoted .outside text = bare := by
  have whole := h []
  rwa [List.append_nil, unquoted, List.append_nil] at whole

end Leaves

/-- Inside a string, the contents up to the closing quote leave nothing. -/
theorem IsContents.unquoted_inside {text : List Char} {units : List Nat} (h : IsContents text units)
    (rest : List Char) : unquoted .inside (text ++ '"' :: rest) = unquoted .outside rest := by
  -- the digits of an escape are no quotes and no backslashes
  have digit : ∀ {c : Char} {value : Nat}, CharClass.hexValue? c = some value →
      c ≠ '"' ∧ c ≠ '\\' := by
    intro c value known
    have letter := isAlphanum_of_hexValue? known
    constructor
    · rintro rfl
      exact absurd letter (by decide)
    · rintro rfl
      exact absurd letter (by decide)
  induction h with
  | nil => rfl
  | @cons item text _ _ here _ ih =>
    rw [List.append_assoc]
    cases here with
    | plain visible noQuote noEscape =>
      rw [List.cons_append, unquoted, if_neg noQuote, if_neg noEscape]
      exact ih
    | letter listed => exact ih
    | unit first second third fourth =>
      simp only [List.cons_append, List.nil_append, unquoted, if_neg (digit first).1,
        if_neg (digit first).2, if_neg (digit second).1, if_neg (digit second).2,
        if_neg (digit third).1, if_neg (digit third).2, if_neg (digit fourth).1,
        if_neg (digit fourth).2]
      exact ih

/-- A string leaves nothing. -/
theorem IsString.leaves {text : List Char} {units : List Nat} (h : IsString text units) :
    Leaves text [] := by
  intro rest
  cases h with
  | mk contents =>
    rw [List.cons_append, List.append_assoc]
    exact contents.unquoted_inside rest

/-- A part of a text leaves no capital `N` and no capital `I`. -/
def IsTame (text : List Char) : Prop := ∃ bare, Leaves text bare ∧ 'N' ∉ bare ∧ 'I' ∉ bare

namespace IsTame

variable {text text' : List Char}

/-- Tame parts are tame together. -/
theorem append (h : IsTame text) (h' : IsTame text') : IsTame (text ++ text') := by
  obtain ⟨bare, leaves, n, i⟩ := h
  obtain ⟨bare', leaves', n', i'⟩ := h'
  exact ⟨bare ++ bare', leaves.append leaves', by simp [n, n'], by simp [i, i']⟩

/-- A text without quotes and without these letters is tame. -/
theorem of_forall (h : ∀ c ∈ text, c ∉ ['"', 'N', 'I']) : IsTame text := by
  refine ⟨text, .of_not_mem fun member => ?_, fun member => ?_, fun member => ?_⟩
  · exact h _ member (by decide)
  · exact h _ member (by decide)
  · exact h _ member (by decide)

/-- Characters that are none of these can be computed to be tame. -/
theorem of_all (h : text.all (fun c => decide (c ∉ ['"', 'N', 'I'])) = true) : IsTame text :=
  of_forall (forall_mem_of_all h)

/-- A tame character is put in front. -/
theorem cons {c : Char} (front : IsTame [c]) (h : IsTame text) : IsTame (c :: text) :=
  front.append h

/-- A tame text between tame brackets is tame. -/
theorem enclosed {opening closing : Char} (front : IsTame [opening]) (back : IsTame [closing])
    (h : IsTame text) : IsTame (opening :: (text ++ [closing])) :=
  front.cons (h.append back)

/-- A string is tame. -/
theorem string {units : List Nat} (h : IsString text units) : IsTame text :=
  ⟨[], h.leaves, List.not_mem_nil, List.not_mem_nil⟩

/-- Space is tame. -/
theorem space (h : IsSpace text) : IsTame text := by
  refine of_forall fun c member => ?_
  have known := h c member
  simp only [List.mem_cons, List.not_mem_nil, or_false] at known
  rcases known with rfl | rfl | rfl | rfl <;> decide

/-- Digits are tame. -/
theorem digits (h : ∀ c ∈ text, c.isDigit = true) : IsTame text := by
  refine of_forall fun c member known => ?_
  have digit := h c member
  simp only [List.mem_cons, List.not_mem_nil, or_false] at known
  rcases known with rfl | rfl | rfl <;> exact absurd digit (by decide)

/-- A numeral is tame. -/
theorem numeral (h : IsNumeral text) : IsTame text := by
  obtain ⟨signed, wholes, places, power⟩ := h
  have hsign : ∀ {sign : List Char}, sign ∈ [[], ['+'], ['-']] → IsTame sign := by
    intro sign signed
    simp only [List.mem_cons, List.not_mem_nil, or_false] at signed
    rcases signed with rfl | rfl | rfl <;> exact of_all rfl
  refine (((hsign ?_).append ?_).append ?_).append ?_
  · simp only [List.mem_cons, List.not_mem_nil, or_false] at signed ⊢
    exact signed.imp_right .inr
  · cases wholes with
    | zero => exact of_all rfl
    | positive _ digit => exact digits digit
  · cases places with
    | none => exact of_all rfl
    | some digit => exact cons (of_all rfl) (digits digit.2)
  · cases power with
    | none => exact of_all rfl
    | @some mark sign shown marked signed digit =>
      refine cons ?_ ((hsign signed).append (digits digit.2))
      simp only [List.mem_cons, List.not_mem_nil, or_false] at marked
      rcases marked with rfl | rfl <;> exact of_all rfl

end IsTame

mutual

/-- Whatever writes a tree is tame. -/
theorem Writes.isTame : ∀ {tree : Json} {text : List Char}, Writes tree text → IsTame text
  | _, _, .null => .of_all rfl
  | _, _, .true => .of_all rfl
  | _, _, .false => .of_all rfl
  | _, _, .number numeral => .numeral numeral
  | _, _, .string quoted => .string quoted
  | _, _, .emptyArray spaced => .enclosed (.of_all rfl) (.of_all rfl) (.space spaced)
  | _, _, .array all => .enclosed (.of_all rfl) (.of_all rfl) all.isTame
  | _, _, .emptyObject spaced => .enclosed (.of_all rfl) (.of_all rfl) (.space spaced)
  | _, _, .object all => .enclosed (.of_all rfl) (.of_all rfl) all.isTame

/-- So it is with space around it. -/
theorem WritesSpaced.isTame : ∀ {tree : Json} {text : List Char}, WritesSpaced tree text →
    IsTame text
  | _, _, .mk front written back => ((IsTame.space front).append written.isTame).append (.space back)

/-- Elements of an array are written tamely. -/
theorem WritesElements.isTame : ∀ {elements : List Json} {text : List Char},
    WritesElements elements text → IsTame text
  | _, _, .last written => written.isTame
  | _, _, .cons written later =>
    written.isTame.append (.cons (.of_all rfl) later.isTame)

/-- Members of an object are written tamely. -/
theorem WritesMembers.isTame : ∀ {members : List (List Nat × Json)} {text : List Char},
    WritesMembers members text → IsTame text
  | _, _, .last written => written.isTame
  | _, _, .cons written later =>
    written.isTame.append (.cons (.of_all rfl) later.isTame)

/-- A member of an object is written tamely. -/
theorem WritesMember.isTame : ∀ {units : List Nat} {tree : Json} {text : List Char},
    WritesMember units tree text → IsTame text
  | _, _, _, .mk front named back written =>
    (((IsTame.space front).append (.string named)).append (.space back)).append
      (.cons (.of_all rfl) written.isTame)

end

/-- A text in which a capital `N` or `I` is left outside of strings is no JSON text. -/
theorem not_isText_of_leaves {text : String} {bare : List Char} (h : Leaves text.toList bare)
    (letter : 'N' ∈ bare ∨ 'I' ∈ bare) (tree : Json) : ¬ IsText text tree := by
  intro written
  obtain ⟨bare', h', n, i⟩ := WritesSpaced.isTame written
  obtain rfl : bare' = bare := h'.unquoted_eq.symm.trans h.unquoted_eq
  exact letter.elim n i

end OrcRows.Json
