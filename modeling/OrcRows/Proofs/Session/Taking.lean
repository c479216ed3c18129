import OrcRows.Proofs.Session.Stepwise

/-!
# The first rows of a stream

A number of requests gives as many of the rows that are left, and meets a fault exactly if one
stands among as many of the outcomes. Whatever comes later is not looked at.
-/

namespace OrcRows

/-- The rows before the first fault. -/
def rowsBefore : List (Outcome Value) → List Value
  | .ok row :: rest => row :: rowsBefore rest
  | _ => []

/-- How outcomes end: with the first fault, or without one. -/
def endOf : List (Outcome Value) → Outcome Unit
  | [] => .ok ()
  | .ok _ :: rest => endOf rest
  | .error fault :: _ => .error fault

section Outcomes

variable {outcomes : List (Outcome Value)} {count : Nat}

/-- As many outcomes as there are rows before the first fault are without one. -/
theorem endOf_take_of_le (enough : count ≤ (rowsBefore outcomes).length) :
    endOf (outcomes.take count) = .ok () := by
  induction outcomes generalizing count with
  | nil => rw [List.take_nil, endOf]
  | cons first rest ih =>
    cases count with
    | zero => rfl
    | succ count =>
      cases first with
      | error fault => exact absurd enough (Nat.not_succ_le_zero count)
      | ok row => exact ih (Nat.le_of_succ_le_succ enough)

/-- Outcomes without a fault begin with outcomes without a fault. -/
theorem endOf_take_of_ok (whole : endOf outcomes = .ok ()) (count : Nat) :
    endOf (outcomes.take count) = .ok () := by
  induction outcomes generalizing count with
  | nil => rw [List.take_nil, endOf]
  | cons first rest ih =>
    cases count with
    | zero => rfl
    | succ count =>
      cases first with
      | error fault => cases whole
      | ok row => exact ih whole count

/-- The first fault is met by more outcomes than there are rows before it. -/
theorem endOf_take_of_lt {fault : Fault} (faulty : endOf outcomes = .error fault)
    (beyond : (rowsBefore outcomes).length < count) :
    endOf (outcomes.take count) = .error fault := by
  induction outcomes generalizing count with
  | nil => cases faulty
  | cons first rest ih =>
    cases count with
    | zero => exact absurd beyond (Nat.not_lt_zero _)
    | succ count =>
      cases first with
      | error other => exact faulty
      | ok row => exact ih faulty (Nat.lt_of_succ_lt_succ beyond)

end Outcomes

namespace Stream

/-- A number of requests gives as many rows of what is left, and ends as that many outcomes do. -/
theorem take_eq (count : Nat) (stream : Stream) (site : Site) :
    (take count stream site).rows = (rowsBefore (stream.expected site)).take count ∧
      (take count stream site).outcome = endOf ((stream.expected site).take count) := by
  induction count generalizing stream site with
  | zero => exact ⟨rfl, rfl⟩
  | succ count ih =>
    have step := gives_next stream site
    rw [take]
    cases left : stream.expected site with
    | nil =>
      rw [left] at step
      simp only [step.1]
      exact ⟨rfl, rfl⟩
    | cons first rest =>
      rw [left] at step
      cases first with
      | error fault =>
        simp only [step.1]
        exact ⟨rfl, rfl⟩
      | ok row =>
        obtain ⟨rows, outcome⟩ := ih (stream.next site).stream (stream.next site).site
        rw [step.2] at rows outcome
        simp only [step.1, rows, outcome]
        exact ⟨rfl, rfl⟩

end Stream

end OrcRows
