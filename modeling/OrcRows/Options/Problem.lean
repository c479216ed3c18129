import OrcRows.Report

/-!
# Problems of options

Options are checked field by field, and all problems are collected. A problem has a place, told by
the keys and positions that lead to it, and a kind; only refusals by the library's own rules have a
message. Two checks together fail with the problems of both, unless one of them breaks down: then
no problem counts any more.
-/

namespace OrcRows

/-- A step on the way to a place in options. -/
inductive PlaceStep where
  | key (name : String)
  /-- A key that is no text. -/
  | other (key : Value)
  | position (place : Nat)

/-- What is wrong at a place. -/
inductive ProblemKind where
  /-- No option has this key. -/
  | unknownKey
  /-- A key is no text. -/
  | notKey
  /-- A text is expected. -/
  | notText
  /-- Bytes that are no text. -/
  | notUnicode
  /-- A list is expected. -/
  | notList
  /-- A truth value is expected. -/
  | notTruth
  /-- A text or number that is no truth value. -/
  | unreadableTruth
  /-- A definition is expected. -/
  | notDefinition
  /-- A name is empty. -/
  | emptyName
  /-- A required key is missing. -/
  | missing
  /-- A rule of the library is broken; the message may be withheld. -/
  | refused (message : Option String)
  deriving DecidableEq, Repr

namespace ProblemKind

/-- The stable identifier of a kind. -/
def name : ProblemKind → String
  | unknownKey => "extra_forbidden"
  | notKey => "invalid_key"
  | notText => "string_type"
  | notUnicode => "string_unicode"
  | notList => "list_type"
  | notTruth => "bool_type"
  | unreadableTruth => "bool_parsing"
  | notDefinition => "model_type"
  | emptyName => "string_too_short"
  | missing => "missing"
  | refused _ => "value_error"

/-- The message of a refusal. -/
def message? : ProblemKind → Option String
  | refused message => message.map ("Value error, " ++ ·)
  | _ => none

end ProblemKind

/-- A problem of options. -/
structure OptionProblem where
  /-- The way to the place. -/
  place : List PlaceStep
  /-- What is wrong there. -/
  kind : ProblemKind

/-- Why a check fails. -/
inductive Refusal where
  /-- Problems were found. -/
  | problems (problems : List OptionProblem)
  /-- The check could not be made. -/
  | broken (cause : Breakdown)

/-- Two reasons together: a breakdown outweighs all problems. -/
def Refusal.and : Refusal → Refusal → Refusal
  | problems first, problems second => problems (first ++ second)
  | broken cause, _ => broken cause
  | problems _, broken cause => broken cause

/-- The result of a check. -/
abbrev Checked := Except Refusal

namespace Checked

/-- A check that fails with one problem. -/
def fail {α : Type} (place : List PlaceStep) (kind : ProblemKind) : Checked α :=
  .error (.problems [⟨place, kind⟩])

/-- The reading of a value at a place as a check. -/
def placed {α : Type} (place : List PlaceStep) : Except ProblemKind α → Checked α
  | .ok value => .ok value
  | .error kind => fail place kind

/-- Two checks, made independently. -/
def both {α β : Type} : Checked α → Checked β → Checked (α × β)
  | .ok a, .ok b => .ok (a, b)
  | .ok _, .error refusal => .error refusal
  | .error refusal, .ok _ => .error refusal
  | .error first, .error second => .error (first.and second)

/-- The check that some problems were not found. -/
def without (problems : List OptionProblem) : Checked Unit :=
  if problems.isEmpty then .ok () else .error (.problems problems)

/-- The checks of all members of a list, made independently; each is given its position. -/
def each {α β : Type} (check : Nat → α → Checked β) (first : Nat) : List α → Checked (List β)
  | [] => .ok []
  | a :: rest => (both (check first a) (each check (first + 1) rest)).map fun (b, bs) => b :: bs

/-- Two checks hold together exactly when both do. -/
theorem both_eq_ok_iff {α β : Type} {a : Checked α} {b : Checked β} {x : α} {y : β} :
    both a b = .ok (x, y) ↔ a = .ok x ∧ b = .ok y := by
  cases a <;> cases b <;> simp [both]

end Checked

end OrcRows
