import OrcRows.Proofs.Session.Planning
import OrcRows.Proofs.Session.Rows

/-!
# Reads that complete

A read of all rows completes with some rows exactly if its stream has these rows to give, and no
fault.
-/

namespace OrcRows

/-- A read of all rows completes with some rows. -/
def Session.Completes (session : Session) (tableId : Option String) (rows : List Value) : Prop :=
  (session.readAll tableId).1 = rows ∧ (session.readAll tableId).2.1 = .ok rows.length

section Completion

/-- A sink that keeps rows has them in the end, the last one first. -/
theorem consume_rows (front rows : List Value) (taken : Nat) :
    consume (fun rows row => .ok (row :: rows)) front taken (rows.map .ok) =
      (rows.reverse ++ front, .ok (taken + rows.length)) := by
  induction rows generalizing front taken with
  | nil => rfl
  | cons row rest ih =>
    rw [List.map_cons, consume]
    simp only [ih, List.reverse_cons, List.append_assoc, List.singleton_append, List.length_cons]
    rw [Nat.add_assoc, Nat.add_comm 1]

/-- A sink is told a number only if there are only rows. -/
theorem exists_rows_of_consume {State : Type} {sink : State → Value → Outcome State} {state : State}
    {taken count : Nat} {expected : List (Outcome Value)}
    (h : (consume sink state taken expected).2 = .ok count) :
    ∃ rows : List Value, expected = rows.map .ok := by
  induction expected generalizing state taken with
  | nil => exact ⟨[], rfl⟩
  | cons first rest ih =>
    cases first with
    | error fault => cases h
    | ok row =>
      rw [consume] at h
      cases given : sink state row with
      | error fault =>
        rw [given] at h
        cases h
      | ok next =>
        rw [given] at h
        obtain ⟨rows, hrows⟩ := ih h
        exact ⟨row :: rows, by rw [hrows, List.map_cons]⟩

/-- A read completes with the rows that its stream has to give. -/
theorem Session.Follows.completes_iff {session : Session} {site : Site} {request : ReadRequest}
    (h : session.Follows site request) {tableId : Option String} {rows : List Value} :
    session.Completes tableId rows ↔
      ∃ stream, (session.rows tableId).1 = .ok stream ∧ stream.expected site = rows.map .ok := by
  have hleft := (h.same_rows h tableId).left
  have hgiven : ∀ stream, (session.rows tableId).1 = .ok stream ↔ _ := fun _ => h.rows_eq_ok_iff
  rw [Completes, readAll]
  cases started : session.rows tableId with
  | mk outcome session' =>
    rw [started] at hleft hgiven
    cases outcome with
    | error fault =>
      rw [Session.readInto, started]
      constructor
      · rintro ⟨_, count⟩
        cases count
      · rintro ⟨_, given, _⟩
        cases given
    | ok stream =>
      obtain ⟨_, _, partitions, _, _, planned, _, _, _, _, _, made⟩ := (hgiven stream).mp rfl
      have fresh : stream.progress = .fresh := by rw [← made]; rfl
      have hconsume := readInto_eq_consume started fresh (fun rows row => .ok (row :: rows)) []
      rw [stream.expected_of_agrees hleft.agrees] at hconsume
      obtain ⟨hstate, houtcome⟩ := Prod.mk.inj hconsume
      simp only [hstate, houtcome]
      constructor
      · rintro ⟨same, count⟩
        obtain ⟨kept, hkept⟩ := exists_rows_of_consume count
        rw [hkept, consume_rows, List.append_nil, List.reverse_reverse] at same
        exact ⟨stream, rfl, same ▸ hkept⟩
      · rintro ⟨_, given, hexpected⟩
        injection given with same
        rw [same, hexpected, consume_rows, List.append_nil, List.reverse_reverse, Nat.zero_add]
        exact ⟨rfl, rfl⟩

end Completion

end OrcRows
