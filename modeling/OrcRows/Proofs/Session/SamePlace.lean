import OrcRows.Proofs.Session.Planning
import Mathlib.Data.List.Forall2

/-!
# Ends at the same place

Two reads end alike if both end without a fault, or with faults that name the same place: faults of
one kind which, if they are reports, say the same column and the same row of the file. Where in
which file this was may differ.
-/

namespace OrcRows

/-- Two faults are of one kind and, if they are reports, name the same column and the same row of
the file, or neither does. -/
def Fault.SamePlace : Fault → Fault → Prop
  | .reported report, .reported report' => report.kind = report'.kind ∧
      report.context.lookup "column" = report'.context.lookup "column" ∧
      report.context.lookup "file_row" = report'.context.lookup "file_row"
  | .broken cause, .broken cause' => cause = cause'
  | _, _ => False

/-- Two outcomes have related values, or faults that name the same place. -/
def Outcome.EndsAs {α β : Type} (related : α → β → Prop) : Outcome α → Outcome β → Prop
  | .ok value, .ok value' => related value value'
  | .error fault, .error fault' => fault.SamePlace fault'
  | _, _ => False

/-- Adding a fact tells nothing about other names. -/
theorem Report.lookup_addFact_of_ne {report : Report} {name other : String} (h : other ≠ name)
    (value : Value) :
    (report.addFact (other, value)).context.lookup name = report.context.lookup name := by
  have hlookup : (report.context ++ [(other, value)]).lookup name = report.context.lookup name := by
    rw [List.lookup_append, List.lookup_cons, beq_eq_false_iff_ne.mpr h.symm]
    exact Option.or_none
  rw [addFact]
  split
  · rfl
  · split
    · rfl
    · exact hlookup

namespace Fault

/-- A fault names its own place. -/
theorem samePlace_refl (fault : Fault) : fault.SamePlace fault := by
  cases fault with
  | reported report => exact ⟨rfl, rfl, rfl⟩
  | broken cause => exact rfl

/-- Faults that are told the files name the same place as before. -/
theorem SamePlace.addPath {fault fault' : Fault} (h : fault.SamePlace fault') (path path' : Value) :
    (fault.addContext [("path", path)]).SamePlace (fault'.addContext [("path", path')]) := by
  cases fault with
  | broken cause => cases fault' with
    | broken cause' => exact h
    | reported report' => exact h.elim
  | reported report => cases fault' with
    | broken cause' => exact h.elim
    | reported report' =>
      have hkind := fun (report : Report) (path : Value) =>
        (report.addContext_kind_message [("path", path)]).1
      have hother : ∀ (name : String) (report : Report) (path : Value), "path" ≠ name →
          (report.addContext [("path", path)]).context.lookup name = report.context.lookup name :=
        fun name report path other => Report.lookup_addFact_of_ne other path
      refine ⟨?_, ?_, ?_⟩
      · rw [hkind, hkind, h.1]
      · rw [hother _ _ _ (by decide), hother _ _ _ (by decide), h.2.1]
      · rw [hother _ _ _ (by decide), hother _ _ _ (by decide), h.2.2]

/-- Reports of one kind that say nothing but the file name the same place. -/
theorem samePlace_report (kind : ReportKind) (message message' : String) (path path' : Value) :
    (report kind message [("path", path)]).SamePlace (report kind message' [("path", path')]) := by
  have bare : SamePlace (.reported ⟨kind, message, []⟩) (.reported ⟨kind, message', []⟩) :=
    ⟨rfl, rfl, rfl⟩
  exact bare.addPath path path'

/-- Located faults of one kind name the same place for the same column and row. -/
theorem samePlace_located {plan plan' : ReadPlan} {fault fault' : Fault}
    (h : fault.sameKind fault' = true) (about : fault.Mentions cellFacts)
    (about' : fault'.Mentions cellFacts) (name : String) (emitted : Nat) :
    (plan.located name emitted fault).SamePlace (plan'.located name emitted fault') := by
  have hsilent : ∀ {report : Report} {rest : List (String × Value)} {name : String},
      (∀ fact ∈ report.context, fact.1 ∈ cellFacts) → name ∉ cellFacts →
      (report.context ++ rest).lookup name = rest.lookup name := by
    intro report rest name mentions foreign
    have hnone : report.context.lookup name = none := by
      refine List.lookup_eq_none_iff.mpr fun fact member => ?_
      rw [bne_iff_ne]
      rintro rfl
      exact foreign (mentions fact member)
    rw [List.lookup_append, hnone, Option.none_or]
  cases fault with
  | broken cause => cases fault' with
    | broken cause' => exact eq_of_beq h
    | reported report' => cases h
  | reported report => cases fault' with
    | broken cause' => cases h
    | reported report' =>
      refine ⟨eq_of_beq h, ?_, ?_⟩
      · rw [hsilent about (by decide), hsilent about' (by decide)]
        rfl
      · rw [hsilent about (by decide), hsilent about' (by decide)]
        rfl

end Fault

namespace Outcome

variable {α β γ δ : Type} {related : α → β → Prop} {linked : γ → δ → Prop}

/-- An outcome ends as it ends. -/
theorem endsAs_refl (outcome : Outcome α) : outcome.EndsAs (· = ·) outcome := by
  cases outcome with
  | ok value => exact rfl
  | error fault => exact fault.samePlace_refl

/-- Outcomes that end alike and go on alike end alike. -/
theorem EndsAs.bind {a : Outcome α} {b : Outcome β} {next : α → Outcome γ} {next' : β → Outcome δ}
    (h : a.EndsAs related b)
    (hn : ∀ value value', related value value' → (next value).EndsAs linked (next' value')) :
    (a >>= next).EndsAs linked (b >>= next') := by
  cases a with
  | ok value => cases b with
    | ok value' => exact hn value value' h
    | error fault' => exact h.elim
  | error fault => cases b with
    | ok value' => exact h.elim
    | error fault' => exact h

/-- Outcomes that go on alike from the same value end alike. -/
theorem endsAs_bind (outcome : Outcome α) {next : α → Outcome γ} {next' : α → Outcome δ}
    (hn : ∀ value, (next value).EndsAs linked (next' value)) :
    (outcome >>= next).EndsAs linked (outcome >>= next') := by
  refine outcome.endsAs_refl.bind fun value value' same => ?_
  subst same
  exact hn value

/-- Mapped outcomes end alike if their values are mapped alike. -/
theorem endsAs_map (outcome : Outcome α) {f : α → γ} {g : α → δ}
    (h : ∀ value, linked (f value) (g value)) : EndsAs linked (outcome.map f) (outcome.map g) := by
  cases outcome with
  | ok value => exact h value
  | error fault => exact fault.samePlace_refl

/-- Values that are related are related more weakly. -/
theorem EndsAs.mono {a : Outcome α} {b : Outcome β} {weaker : α → β → Prop}
    (h : a.EndsAs related b) (hw : ∀ value value', related value value' → weaker value value') :
    a.EndsAs weaker b := by
  cases a with
  | ok value => cases b with
    | ok value' => exact hw value value' h
    | error fault' => exact h.elim
  | error fault => cases b with
    | ok value' => exact h.elim
    | error fault' => exact h

/-- Outcomes that are told the files end alike as before. -/
theorem EndsAs.addPath {a : Outcome α} {b : Outcome β} (h : a.EndsAs related b)
    (path path' : Value) :
    (a.addContext [("path", path)]).EndsAs related (b.addContext [("path", path')]) := by
  cases a with
  | ok value => cases b with
    | ok value' => exact h
    | error fault' => exact h.elim
  | error fault => cases b with
    | ok value' => exact h.elim
    | error fault' => exact Fault.SamePlace.addPath h path path'

end Outcome

/-- Two lists of outcomes have the same rows in turn, up to the end of both or to faults that name
the same place; what stands behind a fault does not count. -/
inductive SameUntilFault : List (Outcome Value) → List (Outcome Value) → Prop
  | done : SameUntilFault [] []
  | row (row : Value) {rest rest' : List (Outcome Value)} (later : SameUntilFault rest rest') :
      SameUntilFault (.ok row :: rest) (.ok row :: rest')
  | fault {fault fault' : Fault} (same : fault.SamePlace fault') (rest rest' : List (Outcome Value)) :
      SameUntilFault (.error fault :: rest) (.error fault' :: rest')

/-- Outcomes that end alike one by one are the same up to a fault. -/
theorem sameUntilFault_of_forall₂ {outcomes outcomes' : List (Outcome Value)}
    (h : List.Forall₂ (Outcome.EndsAs (· = ·)) outcomes outcomes') :
    SameUntilFault outcomes outcomes' := by
  induction h with
  | nil => exact .done
  | @cons outcome outcome' rest rest' first _ ih =>
    cases outcome with
    | ok row => cases outcome' with
      | ok row' =>
        obtain rfl : row = row' := first
        exact .row row ih
      | error fault' => exact first.elim
    | error fault => cases outcome' with
      | ok row' => exact first.elim
      | error fault' => exact .fault first rest rest'

/-- What requests are told of outcomes that are the same up to a fault ends alike. -/
theorem endsAs_answers {expected expected' : List (Outcome Value)}
    (h : SameUntilFault expected expected') (count : Nat) :
    List.Forall₂ (Outcome.EndsAs (· = ·)) (answers count expected) (answers count expected') := by
  induction count generalizing expected expected' with
  | zero => exact .nil
  | succ count ih =>
    cases h with
    | done => exact .cons rfl (ih .done)
    | row row later => exact .cons rfl (ih later)
    | fault same rest rest' => exact .cons same (ih .done)

/-- A sink makes the same of outcomes that are the same up to a fault. -/
theorem endsAs_consume {State : Type} (sink : State → Value → Outcome State) (state : State)
    (taken : Nat) {expected expected' : List (Outcome Value)}
    (h : SameUntilFault expected expected') :
    (consume sink state taken expected).1 = (consume sink state taken expected').1 ∧
      (consume sink state taken expected).2.EndsAs (· = ·)
        (consume sink state taken expected').2 := by
  induction h generalizing state taken with
  | done => exact ⟨rfl, rfl⟩
  | row row later ih =>
    rw [consume, consume]
    cases sink state row with
    | error fault => exact ⟨rfl, fault.samePlace_refl⟩
    | ok next => exact ih next (taken + 1)
  | fault same rest rest' => exact ⟨rfl, same⟩

end OrcRows
