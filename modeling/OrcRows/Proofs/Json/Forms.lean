import OrcRows.Proofs.Json.Numerals
import OrcRows.Proofs.Json.Unquoted
import OrcRows.Proofs.JsonText
import OrcRows.Proofs.Text.Utf8

/-!
# Forms are written as JSON texts

The text of a form is a JSON text that stands for the tree of the form, if all floating-point numbers
in it are finite. If one of them is not, its word is left outside of strings, and the text is no JSON
text at all.
-/

namespace OrcRows

namespace Json

section Strings

/-- Contents are put one behind the other. -/
theorem IsContents.append {text text' : List Char} {units units' : List Nat}
    (h : IsContents text units) (h' : IsContents text' units') :
    IsContents (text ++ text') (units ++ units') := by
  induction h with
  | nil => exact h'
  | cons here _ ih =>
    rw [List.append_assoc, List.append_assoc]
    exact .cons here ih

/-- One item is contents. -/
theorem IsItem.isContents {text : List Char} {units : List Nat} (h : IsItem text units) :
    IsContents text units := by
  have alone := IsContents.cons h .nil
  rwa [List.append_nil, List.append_nil] at alone

/-- The last of several hexadecimal digits stands behind those of the sixteenth part. -/
theorem hex_succ (width code : Nat) : Quoted.hex (width + 2) code =
    Quoted.hex (width + 1) (code / 0x10) ++ [(code % 0x10).digitChar] := by
  rw [Quoted.hex, Quoted.hex]
  rcases Nat.lt_or_ge code 0x10 with small | large
  · have none : code / 0x10 = 0 := Nat.div_eq_of_lt small
    rw [none, Nat.toDigits_of_lt_base small, Nat.mod_eq_of_lt small]
    show List.replicate (width + 1) '0' ++ _ = (List.replicate width '0' ++ ['0']) ++ _
    rw [← List.replicate_succ']
  · rw [Nat.toDigits_of_base_le (by decide) large, List.length_append, List.append_assoc,
      List.length_singleton, Nat.succ_sub_succ]

/-- A unit is written with four hexadecimal digits. -/
theorem hex_four {code : Nat} (small : code < 0x10000) :
    Quoted.hex 4 code = [(code / 0x1000).digitChar, (code / 0x100 % 0x10).digitChar,
      (code / 0x10 % 0x10).digitChar, (code % 0x10).digitChar] := by
  have first : code / 0x10 / 0x10 / 0x10 = code / 0x1000 := by omega
  have second : code / 0x10 / 0x10 = code / 0x100 := by omega
  have single : code / 0x1000 < 0x10 := by omega
  rw [hex_succ, hex_succ, hex_succ, first, second, Quoted.hex, Nat.toDigits_of_lt_base single]
  rfl

/-- The escape of a unit stands for the unit. -/
theorem isItem_escapeUnit {code : Nat} (small : code < 0x10000) :
    IsItem (JsonForm.escapeUnit code) [code] := by
  have digit : ∀ value < 0x10, CharClass.hexValue? value.digitChar = some value := by decide
  have parts : code / 0x1000 * 0x1000 + code / 0x100 % 0x10 * 0x100 + code / 0x10 % 0x10 * 0x10 +
      code % 0x10 = code := by omega
  rw [JsonForm.escapeUnit, hex_four small]
  have item := IsItem.unit (digit (code / 0x1000) (by omega))
    (digit (code / 0x100 % 0x10) (by omega)) (digit (code / 0x10 % 0x10) (by omega))
    (digit (code % 0x10) (by omega))
  rwa [parts] at item

/-- One character inside quotes stands for its units. -/
theorem isContents_encodeChar (c : Char) : IsContents (JsonForm.encodeChar c) (unitsOf c) := by
  have lettered : ∀ pair ∈ JsonForm.letterEscapes, (pair.2, pair.1.toNat) ∈ letters ∧
      unitsOf pair.1 = [pair.1.toNat] := by decide
  rw [JsonForm.encodeChar]
  split
  case h_1 letter found =>
    obtain ⟨front, back, entries, _⟩ := List.lookup_eq_some_iff.mp found
    obtain ⟨listed, same⟩ := lettered (c, letter) (by simp [entries])
    rw [same]
    exact (IsItem.letter listed).isContents
  case h_2 absent =>
    split
    case isTrue plain =>
      have visible : 0x20 ≤ c.toNat := by
        simp only [Quoted.isPlainByte, Bool.and_eq_true, decide_eq_true_eq] at plain
        exact plain.1
      refine (IsItem.plain visible ?_ ?_).isContents
      · rintro rfl
        cases absent
      · rintro rfl
        cases absent
    case isFalse =>
      have bound : c.toNat < 0x110000 := by
        have := Utf8.toNat_bounds c
        omega
      rw [JsonForm.escape, unitsOf]
      simp only
      split
      case isTrue small => exact (isItem_escapeUnit small).isContents
      case isFalse large =>
        exact .cons (isItem_escapeUnit (by omega)) (isItem_escapeUnit (by omega)).isContents

/-- A quoted text is a string of the units of the text. -/
theorem isString_quote (contents : String) :
    IsString (JsonForm.quote contents).toList (units contents) := by
  have all : ∀ text : List Char,
      IsContents (text.flatMap JsonForm.encodeChar) (text.flatMap unitsOf) := by
    intro text
    induction text with
    | nil => exact .nil
    | cons c text ih => exact (isContents_encodeChar c).append ih
  rw [JsonForm.quote, String.toList_ofList]
  exact .mk (all contents.toList)

end Strings

end Json

namespace JsonForm

mutual

/-- All floating-point numbers in a form are finite. -/
def AllFinite : JsonForm → Prop
  | float value => value.isFinite = true
  | array elements => EachFinite elements
  | object members => MembersFinite members
  | _ => True

/-- All floating-point numbers in several forms are finite. -/
def EachFinite : List JsonForm → Prop
  | [] => True
  | form :: rest => form.AllFinite ∧ EachFinite rest

/-- All floating-point numbers in members are finite. -/
def MembersFinite : List (String × JsonForm) → Prop
  | [] => True
  | (_, form) :: rest => form.AllFinite ∧ MembersFinite rest

end

mutual

/-- The tree of a form. -/
def tree : JsonForm → Json
  | null => .null
  | bool value => .bool value
  | int value => .number (toString value)
  | float value => .number (value.textIn floatLayout)
  | text value => .string (Json.units value)
  | array elements => .array (trees elements)
  | object members => .object (memberTrees members)

/-- The trees of several forms. -/
def trees : List JsonForm → List Json
  | [] => []
  | form :: rest => form.tree :: trees rest

/-- The trees of members under the units of their names. -/
def memberTrees : List (String × JsonForm) → List (List Nat × Json)
  | [] => []
  | (name, form) :: rest => (Json.units name, form.tree) :: memberTrees rest

end

section Texts

/-- Texts joined by commas and space begin with the first of them. -/
theorem toList_joined (first next : String) (rest : List String) :
    (", ".intercalate (first :: next :: rest)).toList =
      first.toList ++ ',' :: ([' '] ++ (", ".intercalate (next :: rest)).toList) := by
  rw [String.intercalate_cons_cons, String.toList_append, String.toList_append, List.append_assoc]
  rfl

/-- The text of an array has its elements between brackets. -/
theorem toList_array (elements : List JsonForm) : (array elements).compact.toList =
    '[' :: ((", ".intercalate (compactAll elements)).toList ++ [']']) := by
  rw [compact, String.toList_append, String.toList_append]
  rfl

/-- The text of an object has its members between braces. -/
theorem toList_object (members : List (String × JsonForm)) : (object members).compact.toList =
    '\x7b' :: ((", ".intercalate (compactMembers members)).toList ++ ['\x7d']) := by
  rw [compact, String.toList_append, String.toList_append]
  rfl

/-- The text of a member is its quoted name and its form. -/
theorem toList_member (name : String) (form : JsonForm) :
    (quote name ++ ": " ++ form.compact).toList =
      (quote name).toList ++ ':' :: ([' '] ++ form.compact.toList) := by
  rw [String.toList_append, String.toList_append, List.append_assoc]
  rfl

end Texts

section Written

open Json

/-- No space is space. -/
theorem isSpace_nil : IsSpace [] := fun _ member => absurd member List.not_mem_nil

/-- A blank is space. -/
theorem isSpace_blank : IsSpace [' '] := fun _ member =>
  List.mem_singleton.mp member ▸ List.mem_cons_self

/-- A text may have space in front of it. -/
theorem Writes.behind {tree : Json} {text before : List Char} (h : Json.Writes tree text)
    (space : IsSpace before) : WritesSpaced tree (before ++ text) := by
  have spaced := WritesSpaced.mk space h isSpace_nil
  rwa [List.append_nil] at spaced

/-- A member is written behind space if its form is written. -/
theorem writesMember (name : String) {form : JsonForm} {before : List Char}
    (h : Json.Writes form.tree form.compact.toList) (space : IsSpace before) :
    WritesMember (units name) form.tree (before ++ (quote name ++ ": " ++ form.compact).toList) := by
  have written := WritesMember.mk space (isString_quote name) isSpace_nil
    (Writes.behind h isSpace_blank)
  rwa [List.append_nil, List.append_assoc, ← toList_member] at written

mutual

/-- The text of a form whose numbers are finite writes the tree of the form. -/
theorem writes_compact : ∀ {form : JsonForm}, form.AllFinite →
    Json.Writes form.tree form.compact.toList
  | null, _ => .null
  | bool true, _ => .true
  | bool false, _ => .false
  | int value, _ => by
    have written := Json.Writes.number (isNumeral_int value)
    rwa [String.ofList_toList] at written
  | float value, finite => by
    have written := Json.Writes.number (isNumeral_float finite)
    rwa [String.ofList_toList] at written
  | text value, _ => .string (isString_quote value)
  | array [], _ => .emptyArray isSpace_nil
  | array (form :: rest), finite => by
    rw [toList_array]
    exact .array (writes_compactAll (form :: rest) (List.cons_ne_nil _ _) finite isSpace_nil)
  | object [], _ => .emptyObject isSpace_nil
  | object ((name, form) :: rest), finite => by
    rw [toList_object]
    exact .object (writes_compactMembers ((name, form) :: rest) (List.cons_ne_nil _ _) finite
      isSpace_nil)

/-- The joined texts of several forms write elements of an array, behind any space. -/
theorem writes_compactAll : ∀ (forms : List JsonForm), forms ≠ [] → EachFinite forms →
    ∀ {before : List Char}, IsSpace before →
    WritesElements (trees forms) (before ++ (", ".intercalate (compactAll forms)).toList)
  | [], some_forms, _, _, _ => absurd rfl some_forms
  | [form], _, finite, before, space => by
    rw [compactAll, compactAll, String.intercalate_singleton]
    exact .last (Writes.behind (writes_compact finite.1) space)
  | form :: next :: rest, _, finite, before, space => by
    have later := writes_compactAll (next :: rest) (List.cons_ne_nil _ _) finite.2 isSpace_blank
    rw [compactAll, compactAll, toList_joined, ← List.append_assoc]
    exact .cons (Writes.behind (writes_compact finite.1) space) later

/-- The joined texts of members write members of an object, behind any space. -/
theorem writes_compactMembers : ∀ (members : List (String × JsonForm)), members ≠ [] →
    MembersFinite members → ∀ {before : List Char}, IsSpace before →
    WritesMembers (memberTrees members)
      (before ++ (", ".intercalate (compactMembers members)).toList)
  | [], some_members, _, _, _ => absurd rfl some_members
  | [(name, form)], _, finite, before, space => by
    rw [compactMembers, compactMembers, String.intercalate_singleton]
    exact .last (writesMember name (writes_compact finite.1) space)
  | (name, form) :: next :: rest, _, finite, before, space => by
    have later := writes_compactMembers (next :: rest) (List.cons_ne_nil _ _) finite.2
      isSpace_blank
    rw [compactMembers, compactMembers, toList_joined, ← List.append_assoc]
    exact .cons (writesMember name (writes_compact finite.1) space) later

end

end Written

section Refused

open Json

/-- A text shows outside of strings if something does not hold: it leaves a capital `N` or `I`. -/
def Betrays (holds : Prop) (text : List Char) : Prop :=
  ∃ bare, Leaves text bare ∧ (¬ holds → 'N' ∈ bare ∨ 'I' ∈ bare)

namespace Betrays

variable {holds holds' : Prop} {text text' : List Char}

/-- Nothing has to be shown of what holds. -/
theorem of_isTame (h : IsTame text) (true : holds) : Betrays holds text := by
  obtain ⟨bare, leaves, _⟩ := h
  exact ⟨bare, leaves, fun false => absurd true false⟩

/-- Parts show what each of them shows. -/
theorem append (h : Betrays holds text) (h' : Betrays holds' text') :
    Betrays (holds ∧ holds') (text ++ text') := by
  obtain ⟨bare, leaves, shown⟩ := h
  obtain ⟨bare', leaves', shown'⟩ := h'
  refine ⟨bare ++ bare', leaves.append leaves', fun false => ?_⟩
  rw [List.mem_append, List.mem_append]
  by_cases first : holds
  · exact (shown' fun second => false ⟨first, second⟩).imp .inr .inr
  · exact (shown first).imp .inl .inl

/-- A tame part in front changes nothing of what a text shows. -/
theorem behind {front : List Char} (tame : IsTame front) (h : Betrays holds text) :
    Betrays holds (front ++ text) := by
  obtain ⟨bare, leaves, shown⟩ := (of_isTame tame trivial : Betrays True front).append h
  exact ⟨bare, leaves, fun false => shown fun both => false both.2⟩

/-- Brackets around a text change nothing of what it shows. -/
theorem enclosed {opening closing : Char} (front : IsTame [opening]) (back : IsTame [closing])
    (h : Betrays holds text) : Betrays holds (opening :: (text ++ [closing])) := by
  obtain ⟨bare, leaves, shown⟩ := h.append (of_isTame back trivial : Betrays True [closing])
  exact behind front ⟨bare, leaves, fun false => shown fun both => false both.1⟩

end Betrays

/-- The text of a floating-point number shows if it is not finite. -/
theorem betrays_float (value : Binary64) :
    Betrays (value.isFinite = true) (value.textIn floatLayout).toList := by
  cases value with
  | finite negative m q canonical =>
    exact .of_isTame (.numeral (isNumeral_float rfl)) rfl
  | nan => exact ⟨_, .of_not_mem (by decide), fun _ => .inl (by decide)⟩
  | infinite negative =>
    cases negative <;> exact ⟨_, .of_not_mem (by decide), fun _ => .inr (by decide)⟩

/-- A comma and a blank are tame. -/
theorem separator : IsTame [',', ' '] := .of_all rfl

/-- The text of a member shows what the text of its form shows. -/
theorem betrays_member (name : String) {form : JsonForm} {holds : Prop}
    (h : Betrays holds form.compact.toList) :
    Betrays holds (quote name ++ ": " ++ form.compact).toList := by
  rw [toList_member]
  exact .behind (.string (isString_quote name)) (.behind (.of_all rfl : IsTame [':', ' ']) h)

mutual

/-- The text of a form shows if a number in it is not finite. -/
theorem betrays_compact : ∀ form : JsonForm, Betrays form.AllFinite form.compact.toList
  | null => .of_isTame (Json.Writes.isTame (@writes_compact null trivial)) trivial
  | bool value => .of_isTame (Json.Writes.isTame (@writes_compact (bool value) trivial)) trivial
  | int value => .of_isTame (Json.Writes.isTame (@writes_compact (int value) trivial)) trivial
  | text value => .of_isTame (Json.Writes.isTame (@writes_compact (text value) trivial)) trivial
  | float value => betrays_float value
  | array elements => by
    rw [toList_array]
    exact .enclosed (.of_all rfl) (.of_all rfl) (betrays_compactAll elements)
  | object members => by
    rw [toList_object]
    exact .enclosed (.of_all rfl) (.of_all rfl) (betrays_compactMembers members)

/-- The joined texts of several forms show if a number in them is not finite. -/
theorem betrays_compactAll : ∀ forms : List JsonForm,
    Betrays (EachFinite forms) (", ".intercalate (compactAll forms)).toList
  | [] => .of_isTame (.of_all rfl) trivial
  | [form] => by
    rw [compactAll, compactAll, String.intercalate_singleton, EachFinite, EachFinite, and_true]
    exact betrays_compact form
  | form :: next :: rest => by
    have later := betrays_compactAll (next :: rest)
    rw [compactAll, compactAll, toList_joined, EachFinite]
    exact (betrays_compact form).append (.behind separator later)

/-- The joined texts of members show if a number in them is not finite. -/
theorem betrays_compactMembers : ∀ members : List (String × JsonForm),
    Betrays (MembersFinite members) (", ".intercalate (compactMembers members)).toList
  | [] => .of_isTame (.of_all rfl) trivial
  | [(name, form)] => by
    rw [compactMembers, compactMembers, String.intercalate_singleton, MembersFinite, MembersFinite,
      and_true]
    exact betrays_member name (betrays_compact form)
  | (name, form) :: next :: rest => by
    have later := betrays_compactMembers (next :: rest)
    rw [compactMembers, compactMembers, toList_joined, MembersFinite]
    exact (betrays_member name (betrays_compact form)).append (.behind separator later)

end

/-- A form is written as a JSON text that stands for its tree if all numbers in it are finite, and
as no JSON text otherwise. -/
theorem isText_compact (form : JsonForm) :
    (form.AllFinite → IsText form.compact form.tree) ∧
      (¬ form.AllFinite → ∀ tree, ¬ IsText form.compact tree) := by
  refine ⟨fun finite => Writes.behind (writes_compact finite) isSpace_nil, fun infinite tree => ?_⟩
  obtain ⟨bare, leaves, shown⟩ := betrays_compact form
  exact not_isText_of_leaves leaves (shown infinite) tree

end Refused

end JsonForm

end OrcRows
