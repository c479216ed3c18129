import OrcRows.Command.Run
import OrcRows.Proofs.JsonText
import OrcRows.Proofs.Session.Planning
import OrcRows.Proofs.Session.Rows
import OrcRows.Proofs.Session.Taking

/-!
# Printing the first rows of a file

The rows of a recognized file with a schema can always be asked for. The lines that are printed are
those of the first rows before a fault. One row more is asked for than is printed, so a fault right
behind the last row that is printed ends the command as a failure all the same.
-/

namespace OrcRows

namespace Command

/-- The lines of the first rows before a fault. -/
def firstLines (schema : Schema) (limit : Nat) (outcomes : List (Outcome Value)) : List String :=
  ((rowsBefore outcomes).take limit).map (rowLine schema)

/-- The line of a row has no line break in it. -/
theorem not_mem_rowLine (schema : Schema) (row : Value) : '\n' ∉ (rowLine schema row).toList := by
  cases row <;> exact (JsonForm.isShown_compact _).not_mem

/-- A fault ends a command with an exit code of failure. -/
theorem exitCode_failure_ne_zero (printed : List String) (fault : Fault) :
    (Conclusion.failure printed fault).exitCode ≠ 0 := by
  cases fault with
  | reported report => exact Conclusion.codeOf_ne_zero report.kind
  | broken cause => exact Nat.one_ne_zero

section Head

variable {workplace : Workplace} {path : String} {options : ReaderOptions} {choice : ColumnChoice}
  {encoding : String} {reading reading' : Session} {schema : Schema} {stream : Stream}

/-- The session of a path is new. -/
theorem exists_of_session_eq_ok (opened : session workplace path options = .ok reading) :
    ∃ handle, Handle.ofUri workplace.environment path = .ok handle ∧
      reading = .start workplace.site ⟨handle, options, none, none, none⟩ := by
  obtain ⟨handle, located, made⟩ := Outcome.bind_eq_ok opened
  injection made with same
  exact ⟨handle, located, same.symm⟩

/-- The lines are those of the first rows, and the command ends as one row more than is printed
says. -/
theorem runHead_eq (opened : session workplace path options = .ok reading)
    (started : reading.rows none = (.ok stream, reading')) (typed : reading.schema.1 = .ok schema)
    (limit : Nat) :
    runHead workplace path limit options =
      let expected := stream.expected reading'.site
      match endOf (expected.take (limit + 1)) with
      | .ok () => .ok (.success (firstLines schema limit expected))
      | .error fault => .ok (.failure (firstLines schema limit expected) fault) := by
  obtain ⟨handle, located, rfl⟩ := exists_of_session_eq_ok opened
  have new : (Session.start workplace.site ⟨handle, options, none, none, none⟩).Follows
      workplace.site _ := Session.follows_start (.refl workplace.site)
  have followed := (new.same_rows new none).left
  rw [started] at followed
  -- The schema is asked of a second session, at the site that the first one has left.
  have second : (Session.start reading'.site ⟨handle, options, none, none, none⟩).Follows
      workplace.site _ := Session.follows_start followed.agrees
  obtain ⟨told, asked, _⟩ := second.same_schema new
  rw [typed] at told
  have again : session { workplace with site := reading'.site } path options =
      .ok (.start reading'.site ⟨handle, options, none, none, none⟩) := by
    rw [session, located]
    rfl
  generalize Session.start reading'.site ⟨handle, options, none, none, none⟩ = asking
    at again told asked
  have left : stream.expected asking.schema.2.site = stream.expected reading'.site :=
    stream.expected_of_agrees (followed.agrees.symm.trans asked.agrees)
  obtain ⟨rows, outcome⟩ := stream.take_eq (limit + 1) asking.schema.2.site
  rw [left] at rows outcome
  rw [runHead, opened, Outcome.ok_bind, started]
  simp only [Except.map, Outcome.ok_bind, again, told, rows, outcome, List.take_take,
    Nat.min_eq_left (Nat.le_succ limit), firstLines]
  cases endOf ((stream.expected reading'.site).take (limit + 1)) <;> rfl

/-- Of a recognized file with a schema, the first rows before a fault are printed in order, each on
one line. The command succeeds if there is one row more than is printed, or if there is no fault at
all. Otherwise it fails with the first fault, also if as many rows as were asked for stand before
it. -/
theorem run_head (accepted :
      ReaderOptions.ofRaw workplace.rules (rawOptions choice encoding) = .ok options)
    (opened : session workplace path options = .ok reading)
    (recognized : reading.detect = .ok true) (typed : reading.schema.1 = .ok schema) :
    ∃ stream reading' expected, reading.rows none = (.ok stream, reading') ∧
      stream.expected reading'.site = expected ∧ stream.Expects reading'.site expected ∧
      ∀ limit : Nat,
        (limit < (rowsBefore expected).length ∨ endOf expected = .ok () →
          (head path limit choice encoding).run workplace =
            .success (firstLines schema limit expected)) ∧
        (∀ fault, endOf expected = .error fault → (rowsBefore expected).length ≤ limit →
          (head path limit choice encoding).run workplace =
              .failure (firstLines schema limit expected) fault ∧
            ((head path limit choice encoding).run workplace).exitCode ≠ 0) ∧
        ∀ line ∈ firstLines schema limit expected, '\n' ∉ line.toList := by
  obtain ⟨handle, _, new⟩ := exists_of_session_eq_ok opened
  have follows : reading.Follows workplace.site ⟨handle, options, none, none, none⟩ :=
    new ▸ Session.follows_start (.refl workplace.site)
  obtain ⟨stream, reading', started⟩ := follows.exists_rows recognized typed none
  refine ⟨stream, reading', stream.expected reading'.site, started, rfl,
    Session.expects_of_rows started reading'.site, fun limit => ?_⟩
  have run : (head path limit choice encoding).run workplace =
      .ofOutcome (runHead workplace path limit options) := by
    rw [Command.run, withOptions, accepted]
  rw [run, runHead_eq opened started typed]
  refine ⟨fun whole => ?_, fun fault faulty few => ?_, fun line member => ?_⟩
  · have quiet : endOf ((stream.expected reading'.site).take (limit + 1)) = .ok () :=
      whole.elim endOf_take_of_le (endOf_take_of_ok · (limit + 1))
    simp only [quiet]
    rfl
  · simp only [endOf_take_of_lt faulty (Nat.lt_succ_of_le few)]
    exact ⟨rfl, exitCode_failure_ne_zero _ fault⟩
  · obtain ⟨row, _, rfl⟩ := List.mem_map.mp member
    exact not_mem_rowLine schema row

/-- A place with a file of two rows in front of a stripe that cannot be read. -/
def tornWorkplace : Workplace :=
  ⟨.start ⟨"/", [("/torn.orc", Sniff.magic)]⟩
    (.table ⟨[("id", .integer true 8)], [.ok [.integers [some 1, some 2]], .error .unreadable],
      none⟩), [], .standard⟩

/-- The session of the file in all its columns. -/
def tornSession : Session :=
  .start tornWorkplace.site
    ⟨⟨"/torn.orc", "", "/torn.orc", true, .none⟩, .standard, none, none, none⟩

/-- Both rows of the file are asked for and stand before the fault. They are printed, and the
command fails. -/
theorem head_fails_behind_last_row :
    ∃ stream reading' expected,
      ReaderOptions.ofRaw tornWorkplace.rules (rawOptions ⟨none, []⟩ "utf-8") = .ok .standard ∧
      session tornWorkplace "/torn.orc" .standard = .ok tornSession ∧
      tornSession.rows none = (.ok stream, reading') ∧ stream.Expects reading'.site expected ∧
      (rowsBefore expected).length = 2 ∧
      ((head "/torn.orc" 2 ⟨none, []⟩ "utf-8").run tornWorkplace).printed =
        ["\x7b\"id\": 1\x7d", "\x7b\"id\": 2\x7d"] ∧
      ((head "/torn.orc" 2 ⟨none, []⟩ "utf-8").run tornWorkplace).exitCode = 3 := by
  obtain ⟨stream, reading', started, rows⟩ : ∃ stream reading',
      tornSession.rows none = (.ok stream, reading') ∧
        (rowsBefore (stream.expected reading'.site)).length = 2 := ⟨_, _, by rfl, by rfl⟩
  exact ⟨stream, reading', _, by rfl, by rfl, started,
    Session.expects_of_rows started reading'.site, rows, by decide +kernel, by decide +kernel⟩

/-- One row is printed as if the fault behind the second one were not there. -/
theorem run_head_torn :
    (head "/torn.orc" 1 ⟨none, []⟩ "utf-8").run tornWorkplace =
      .success ["\x7b\"id\": 1\x7d"] := by
  have accepted : ReaderOptions.ofRaw tornWorkplace.rules (rawOptions ⟨none, []⟩ "utf-8") =
    .ok .standard := by rfl
  have opened : session tornWorkplace "/torn.orc" .standard = .ok tornSession := by rfl
  obtain ⟨schema, typed, names⟩ : ∃ schema, tornSession.schema.1 = .ok schema ∧
      schema.names = ["id"] := ⟨_, by rfl, by rfl⟩
  obtain ⟨stream, reading', expected, started, left, _, all⟩ :=
    run_head accepted opened (by rfl) typed
  have rows : rowsBefore expected = [.row [.int 1] none, .row [.int 2] none] := by
    injection started with hstream hreading
    injection hstream with hstream
    rw [← left, ← hstream, ← hreading]
    rfl
  rw [(all 1).1 (.inl (by rw [rows]; decide)), firstLines, rows]
  simp only [List.take_succ_cons, List.take_zero, List.map_cons, List.map_nil, rowLine, names]
  decide +kernel

end Head

end Command

end OrcRows
