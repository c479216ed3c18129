import OrcRows.Partition
import OrcRows.Proofs.Pattern.Matching

/-!
# The pattern of a named value

A definition without a pattern stands for the usual one: the name, escaped so that each of its
characters stands for itself, an equals sign, and the rest of the directory in a group. This pattern
is read as it is meant, whatever characters the name has, and it finds what the definition finds.
-/

namespace OrcRows

namespace Pattern

/-- The characters that are escaped in written patterns. -/
def specialChars : List Char :=
  ['(', ')', '[', ']', '\x7b', '\x7d', '?', '*', '+', '-', '|', '^', '$', '\\', '.', '&', '~', '#',
   ' ', '\t', '\n', '\r', '\x0b', '\x0c']

/-- A character as it is written to stand for itself. -/
def escapedChar (c : Char) : List Char := if c ∈ specialChars then ['\\', c] else [c]

/-- A text as it is written to stand for itself. -/
def escaped (text : List Char) : List Char := text.flatMap escapedChar

/-- What follows an equals sign: any characters but line breaks, as many as possible. -/
def remainder : Pattern := repetition 0 none true (one ⟨[.range 10 10], true, .distinct⟩)

/-- The parts of the usual pattern of a name. -/
def usualParts (name : List Char) : List Pattern :=
  anchor .start :: ((name ++ ['=']).map literal ++ [capture 1 remainder, anchor .lastLineEnd])

/-- The usual pattern of a name as it is written. -/
def usualText (name : String) : String :=
  String.ofList ('^' :: (escaped name.toList ++ ['=', '(', '.', '*', ')', '$']))

section Reading

/-- Some items read under no flags and outside of groups, latest first. -/
def Reading.ofItems (characters : CharNames) (items : List (Pattern × ItemRole)) : Reading :=
  { Reading.start characters with current := ⟨[], items⟩ }

variable {characters : CharNames} {items : List (Pattern × ItemRole)} {c : Char} {rest : List Char}

/-- Behind a backslash a special character is that character. -/
theorem escape?_of_special (special : c ∈ specialChars) :
    escape? characters c rest = some (.code c.toNat, rest) := by
  simp only [specialChars, List.mem_cons, List.not_mem_nil, or_false] at special
  obtain rfl | rfl | rfl | rfl | rfl | rfl | rfl | rfl | rfl | rfl | rfl | rfl | rfl | rfl | rfl |
    rfl | rfl | rfl | rfl | rfl | rfl | rfl | rfl | rfl := special <;> rfl

/-- Any other character is an item of its own. -/
theorem Reading.readItem_of_not_special (plain : c ∉ specialChars) (reading : Reading) :
    reading.readItem c rest = some (reading.pushSet [.range c.toNat c.toNat] false, rest) := by
  rw [Reading.readItem.eq_def]
  split
  case h_12 => rfl
  all_goals exact absurd (by decide) plain

/-- One item is read, whatever its first character, unless that is a brace. -/
theorem Reading.step_ofItems (brace : c ≠ '\x7b') :
    (Reading.ofItems characters items).step c rest =
      orUnreadable ((Reading.ofItems characters items).readItem c rest) := by
  rw [Reading.step.eq_def, if_neg (by simp [Reading.ofItems, Reading.start]),
    if_neg (by simp [Reading.ofItems, Reading.start]),
    if_neg (by simp [Reading.ofItems, Reading.start, Reading.isContradictory])]
  split
  · contradiction
  · rfl

/-- A character that is written to stand for itself is read as itself. -/
theorem Reading.run_escapedChar (fuel : Nat) :
    Reading.run (fuel + 1) (.ofItems characters items) (escapedChar c ++ rest) =
      Reading.run fuel (.ofItems characters ((literal c, .plain) :: items)) rest := by
  rw [escapedChar]
  split
  next special =>
    have escape : escape? (Reading.ofItems characters items).characters c rest =
        some (.code c.toNat, rest) := escape?_of_special special
    simp only [List.cons_append, List.nil_append, Reading.run]
    rw [Reading.step_ofItems (by decide), Reading.readItem, Reading.readEscape, escape]
    rfl
  next plain =>
    have brace : c ≠ '\x7b' := by
      rintro rfl
      exact plain (by decide)
    simp only [List.cons_append, List.nil_append, Reading.run]
    rw [Reading.step_ofItems brace, Reading.readItem_of_not_special plain]
    rfl

/-- A text that is written to stand for itself is read as its characters. -/
theorem Reading.run_escaped (text : List Char) (fuel : Nat) :
    Reading.run (fuel + text.length) (.ofItems characters items) (escaped text ++ rest) =
      Reading.run fuel
        (.ofItems characters
          ((text.map fun c => (literal c, ItemRole.plain)).reverse ++ items)) rest := by
  induction text generalizing items with
  | nil => rfl
  | cons c text ih =>
    rw [escaped, List.flatMap_cons, List.append_assoc, ← escaped, List.length_cons, ← Nat.add_assoc,
      Reading.run_escapedChar, ih, List.map_cons, List.reverse_cons, List.append_assoc]
    rfl

/-- A lone alternative is the whole pattern. -/
theorem Alternatives.toPattern_single (items : List (Pattern × ItemRole)) :
    (⟨[], items⟩ : Alternatives).toPattern = concat (items.reverse.map (·.1)) := by
  have alone : ¬ 1 < [finishedItems ⟨[], items⟩].eraseDups.length := by
    simp [List.eraseDups_cons]
  rw [toPattern, joined, all, List.reverse_singleton, if_neg fun both => alone both.2]
  rfl

/-- Escaping makes no text shorter. -/
theorem length_le_escaped (text : List Char) : text.length ≤ (escaped text).length := by
  induction text with
  | nil => rfl
  | cons c text ih =>
    have one : 1 ≤ (escapedChar c).length := by
      rw [escapedChar]
      split <;> simp
    rw [escaped, List.flatMap_cons, List.length_append, ← escaped, List.length_cons]
    omega

/-- The usual pattern of a name is read as its parts. -/
theorem ofText_usual (name : String) :
    ofText characters (usualText name) = .ok (concat (usualParts name.toList), 1) := by
  obtain ⟨spare, hspare⟩ := Nat.exists_eq_add_of_le (length_le_escaped name.toList)
  have length : (usualText name).length = spare + 6 + name.toList.length + 1 := by
    rw [usualText, String.length_ofList, List.length_cons, List.length_append, hspare]
    simp
    omega
  have front : Reading.run (spare + 6 + name.toList.length + 1) (.start characters)
      ('^' :: (escaped name.toList ++ ['=', '(', '.', '*', ')', '$'])) =
        Reading.run (spare + 6 + name.toList.length)
          (.ofItems characters [(anchor .start, .anchored)])
          (escaped name.toList ++ ['=', '(', '.', '*', ')', '$']) := rfl
  have back (items : List (Pattern × ItemRole)) :
      (Reading.run (spare + 6) (.ofItems characters items)
        ['=', '(', '.', '*', ')', '$']).bind Reading.finish =
        .ok (Alternatives.toPattern ⟨[], (anchor .lastLineEnd, .anchored) ::
          (capture 1 remainder, .plain) :: (literal '=', .plain) :: items⟩, 1) := by
    cases spare <;> rfl
  rw [ofText, length, usualText, String.toList_ofList, front, Reading.run_escaped]
  refine (back _).trans ?_
  rw [Alternatives.toPattern_single]
  simp [usualParts, Function.comp_def]

end Reading

section Matching

variable {cursor : Cursor}

/-- Any character but a line break can follow the equals sign. -/
theorem holds_remainder :
    (⟨[.range 10 10], true, .distinct⟩ : CharSet).holds = fun c => decide (c ≠ '\n') := by
  funext c
  have item : (SetItem.range 10 10).holds c [c] [] = decide (c = '\n') := by
    have code : (10 ≤ c.toNat ∧ c.toNat ≤ 10) ↔ c = '\n' := by
      rw [← Nat.le_antisymm_iff, eq_comm, ← Char.toNat_inj]
      rfl
    simp [SetItem.holds, ← code]
  simp [CharSet.holds, Casing.variants, Casing.farVariants, item]

/-- A place is at the end of the text, or at a line break that ends it. -/
theorem satisfies_lastLineEnd :
    cursor.satisfies .lastLineEnd ↔ cursor.after = [] ∨ cursor.after = ['\n'] := by
  simp [Cursor.satisfies, List.isEmpty_iff]

/-- The group takes what is left of the line, which the text or a line break has to end. -/
theorem matcher_remainder {value : List Char}
    (line : cursor.after.takeWhile (fun c => decide (c ≠ '\n')) = value) :
    (concat [capture 1 remainder, anchor .lastLineEnd]).matcher cursor some =
      if cursor.after = value ∨ cursor.after = value ++ ['\n'] then
        some (((cursor.enter 1).advance value.length).capture 1 value)
      else none := by
  obtain ⟨tail, whole⟩ : ∃ tail, cursor.after = value ++ tail := by
    rw [← line]
    exact ⟨_, List.takeWhile_append_dropWhile.symm⟩
  have ends (reached : Cursor) (text : List Char) :
      (concat [anchor .lastLineEnd]).matcher (reached.capture 1 text) some =
        if reached.after = [] ∨ reached.after = ['\n'] then some (reached.capture 1 text)
        else none := by
    rw [concat, matcher]
    exact if_congr satisfies_lastLineEnd rfl rfl
  have run : (cursor.enter 1).after.takeWhile
      (⟨[.range 10 10], true, .distinct⟩ : CharSet).holds = value := by
    rw [holds_remainder]
    exact line
  rw [matcher_concat_cons, matcher, remainder, matcher, rounds_run (by simp) (by simp), run]
  · -- Behind the run the line is at its end, and the group holds the run.
    have taken : cursor.after.take
        (cursor.after.length - ((cursor.enter 1).advance value.length).after.length) = value := by
      simp [Cursor.enter, whole]
    have left : ((cursor.enter 1).advance value.length).after = tail := by
      simp [Cursor.enter, whole]
    rw [taken, ends, left, whole]
    simp
  · -- In front of it the next character is no line break.
    intro count within
    rw [run] at within
    have next : ((cursor.enter 1).advance count).after =
        value[count] :: (value.drop (count + 1) ++ tail) := by
      rw [Cursor.advance_after, Cursor.enter, whole, List.drop_append_of_le_length (by omega),
        List.drop_eq_getElem_cons within, List.cons_append]
    have plain : ∀ c ∈ value, c ≠ '\n' := by
      intro c member
      rw [← line] at member
      simpa using List.mem_takeWhile_imp member
    have other := plain _ (List.getElem_mem within)
    rw [ends, if_neg]
    rw [next]
    simp [other]

/-- The usual pattern of a name finds what is to be found: its group takes the value. -/
theorem match?_usual (name segment : List Char) :
    ((concat (usualParts name)).match? segment).map (·.captured? 1) =
      (PartitionDefinition.namedValue? name segment).map some := by
  have front : (Cursor.start segment).satisfies .start := rfl
  have whole : (Cursor.start segment).after = segment := rfl
  rw [match?, usualParts, matcher_concat_cons, matcher, if_pos front, matcher_concat_literals,
    whole, PartitionDefinition.namedValue?]
  by_cases named : (name ++ ['=']).isPrefixOf segment
  · have behind : ((Cursor.start segment).advance (name ++ ['=']).length).after =
        segment.drop (name.length + 1) := by
      rw [Cursor.advance_after, whole, List.length_append, List.length_singleton]
    rw [if_pos named, if_pos named, matcher_remainder rfl, behind]
    simp only
    split <;> rfl
  · rw [if_neg named, if_neg named]
    rfl

end Matching

end Pattern

/-- The usual pattern of a name, written with the name escaped. -/
def PathPattern.usual (name : String) : PathPattern where
  text := Pattern.usualText name
  body := Pattern.concat (Pattern.usualParts name.toList)
  groups := 1
  readable := ⟨CharName.code?, Pattern.ofText_usual name⟩
  capturing := Nat.one_pos

/-- The usual pattern is what its text is read as, whatever names characters have. -/
theorem PathPattern.ofText_usual (characters : CharNames) (name : String) :
    ofText characters (Pattern.usualText name) = .ok (usual name) :=
  ofText_eq_ok_iff.mpr ⟨rfl, Pattern.ofText_usual name⟩

/-- A definition without a pattern finds what the usual pattern of its name finds. -/
theorem PartitionDefinition.find?_usual {definition : PartitionDefinition}
    (unwritten : definition.pattern = none) (segment : List Char) :
    definition.find? segment =
      ((PathPattern.usual definition.name).body.match? segment).map (·.captured? 1) := by
  rw [PartitionDefinition.find?, unwritten]
  exact (Pattern.match?_usual definition.name.toList segment).symm

end OrcRows
