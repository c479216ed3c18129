import OrcRows.Report

/-!
# How outcomes end

An outcome ends with a value or with a fault. `Outcome.Ends` demands something of either end at
once, so one statement covers that a result is there when it should be, that it is right, and that
nothing but certain faults takes its place. Two outcomes are `Outcome.Alike` if they end with the
same value, or with faults of one kind. The lemmas follow the ways in which outcomes are put
together.
-/

namespace OrcRows

/-- Two faults of one kind are of one kind in either order. -/
theorem Fault.sameKind_symm {a b : Fault} (h : a.sameKind b = true) : b.sameKind a = true := by
  cases a with
  | reported report =>
    cases b with
    | reported report' =>
      simp only [sameKind, beq_iff_eq] at h ⊢
      exact h.symm
    | broken cause' => exact h
  | broken cause =>
    cases b with
    | reported report' => exact h
    | broken cause' =>
      simp only [sameKind, beq_iff_eq] at h ⊢
      exact h.symm

/-- Faults of the kind of one fault are of one kind. -/
theorem Fault.sameKind_trans {a b c : Fault} (h : a.sameKind b = true)
    (h' : b.sameKind c = true) : a.sameKind c = true := by
  cases a with
  | reported report =>
    cases b with
    | reported report' =>
      cases c with
      | reported report'' =>
        simp only [sameKind, beq_iff_eq] at h h' ⊢
        exact h.trans h'
      | broken cause'' => exact h'
    | broken cause' => contradiction
  | broken cause =>
    cases b with
    | reported report' => contradiction
    | broken cause' =>
      simp only [sameKind, beq_iff_eq] at h
      rwa [h]

namespace Outcome

variable {α β : Type} {permitted : Fault → Prop} {good : α → Prop} {fine : β → Prop}

/-- A value meets one condition, a fault another one. -/
def Ends (permitted : Fault → Prop) (good : α → Prop) : Outcome α → Prop
  | .ok value => good value
  | .error fault => permitted fault

/-- An outcome without a fault is judged by its value. -/
@[simp] theorem ends_ok {value : α} : Ends permitted good (.ok value) ↔ good value := Iff.rfl

/-- An outcome with a fault is judged by that fault. -/
@[simp] theorem ends_error {fault : Fault} :
    Ends permitted good (.error fault : Outcome α) ↔ permitted fault := Iff.rfl

/-- An outcome ends in one of two ways. -/
theorem ends_iff {outcome : Outcome α} :
    Ends permitted good outcome ↔
      (∃ value, outcome = .ok value ∧ good value) ∨
        (∃ fault, outcome = .error fault ∧ permitted fault) := by
  cases outcome with
  | ok value => simp [Ends]
  | error fault => simp [Ends]

/-- A weaker condition on values is met as well. -/
theorem Ends.mono {outcome : Outcome α} {better : α → Prop} (h : Ends permitted better outcome)
    (hw : ∀ value, better value → good value) : Ends permitted good outcome := by
  cases outcome with
  | ok value => exact hw value h
  | error fault => exact h

/-- More faults may be permitted. -/
theorem Ends.permit {outcome : Outcome α} {fewer : Fault → Prop} (h : Ends fewer good outcome)
    (hf : ∀ fault, fewer fault → permitted fault) : Ends permitted good outcome := by
  cases outcome with
  | ok value => exact h
  | error fault => exact hf fault h

/-- What goes on after an outcome sees only values that meet its condition. -/
theorem Ends.bind {outcome : Outcome α} {next : α → Outcome β} (h : Ends permitted good outcome)
    (hn : ∀ value, good value → Ends permitted fine (next value)) :
    Ends permitted fine (outcome >>= next) := by
  cases outcome with
  | ok value => exact hn value h
  | error fault => exact h

/-- A mapped outcome meets what its values meet after mapping. -/
theorem Ends.map {outcome : Outcome α} {f : α → β} (h : Ends permitted good outcome)
    (hf : ∀ value, good value → fine (f value)) : Ends permitted fine (outcome.map f) := by
  cases outcome with
  | ok value => exact hf value h
  | error fault => exact h

/-- Something that is there is an outcome without a fault. -/
@[simp] theorem ofOption_some (cause : Breakdown) (value : α) :
    ofOption cause (some value) = .ok value := rfl

/-- Something that is missing is a breakdown. -/
@[simp] theorem ofOption_none (cause : Breakdown) :
    ofOption cause (none : Option α) = .error (.broken cause) := rfl

/-- An outcome without a fault was there. -/
theorem eq_some_of_ofOption {cause : Breakdown} {found : Option α} {value : α}
    (h : ofOption cause found = .ok value) : found = some value := by
  cases found with
  | none => cases h
  | some other =>
    cases h
    rfl

/-- An outcome that goes on without a fault had a value to go on with. -/
theorem bind_eq_ok {outcome : Outcome α} {next : α → Outcome β} {result : β}
    (h : outcome >>= next = .ok result) :
    ∃ value, outcome = .ok value ∧ next value = .ok result := by
  cases outcome with
  | ok value => exact ⟨value, rfl, h⟩
  | error fault => contradiction

/-- What is made of an outcome is made of a value, if it is no fault. -/
theorem map_eq_ok {outcome : Outcome α} {f : α → β} {result : β}
    (h : outcome.map f = .ok result) : ∃ value, outcome = .ok value ∧ f value = result := by
  cases outcome with
  | ok value => exact ⟨value, rfl, Except.ok.inj h⟩
  | error fault => contradiction

/-- A value goes on as it is. -/
@[simp] theorem ok_bind (value : α) (next : α → Outcome β) :
    ((.ok value : Outcome α) >>= next) = next value := rfl

/-- A fault ends what would go on. -/
@[simp] theorem error_bind (fault : Fault) (next : α → Outcome β) :
    ((.error fault : Outcome α) >>= next) = .error fault := rfl

/-- A list of outcomes without a fault has the value of each in its place. -/
theorem getElem?_of_mapM_eq_ok {f : α → Outcome β} {inputs : List α} {results : List β}
    (h : inputs.mapM f = .ok results) {place : Nat} {input : α} (hi : inputs[place]? = some input) :
    ∃ result, results[place]? = some result ∧ f input = .ok result := by
  induction inputs generalizing results place with
  | nil => simp at hi
  | cons head rest ih =>
    rw [List.mapM_cons] at h
    obtain ⟨first, hf, h⟩ := bind_eq_ok h
    obtain ⟨others, ho, h⟩ := bind_eq_ok h
    injection h with same
    rw [← same]
    cases place with
    | zero =>
      rw [List.getElem?_cons_zero, Option.some_inj] at hi
      exact ⟨first, rfl, hi ▸ hf⟩
    | succ place => exact ih ho hi

/-- A list of outcomes without a fault has as many values as there are outcomes. -/
theorem length_of_mapM_eq_ok {f : α → Outcome β} {inputs : List α} {results : List β}
    (h : inputs.mapM f = .ok results) : results.length = inputs.length := by
  induction inputs generalizing results with
  | nil =>
    injection h with same
    rw [← same]
    rfl
  | cons head rest ih =>
    rw [List.mapM_cons] at h
    obtain ⟨first, _, h⟩ := bind_eq_ok h
    obtain ⟨others, ho, h⟩ := bind_eq_ok h
    injection h with same
    rw [← same, List.length_cons, List.length_cons, ih ho]

/-- The fault of a list of outcomes is the first one. -/
theorem exists_of_mapM_eq_error {f : α → Outcome β} {inputs : List α} {fault : Fault}
    (h : inputs.mapM f = .error fault) :
    ∃ (place : Nat) (input : α), inputs[place]? = some input ∧ f input = .error fault ∧
      ∀ (earlier : Nat) (other : α), earlier < place → inputs[earlier]? = some other →
        ∃ result, f other = .ok result := by
  induction inputs with
  | nil => cases h
  | cons head rest ih =>
    rw [List.mapM_cons] at h
    cases hf : f head with
    | error cause =>
      rw [hf, error_bind] at h
      injection h with same
      exact ⟨0, head, rfl, same ▸ hf, fun _ _ he => absurd he (Nat.not_lt_zero _)⟩
    | ok first =>
      rw [hf, ok_bind] at h
      cases hr : rest.mapM f with
      | ok others =>
        rw [hr] at h
        cases h
      | error cause =>
        rw [hr, error_bind] at h
        injection h with same
        obtain ⟨place, input, hi, hfault, hbefore⟩ := ih (same ▸ hr)
        refine ⟨place + 1, input, hi, hfault, fun earlier other he ho => ?_⟩
        cases earlier with
        | zero =>
          rw [List.getElem?_cons_zero, Option.some_inj] at ho
          exact ⟨first, ho ▸ hf⟩
        | succ earlier => exact hbefore earlier other (by omega) ho

/-- A list of outcomes has no fault but one of theirs. -/
theorem Ends.mapM {f : α → Outcome β} {inputs : List α}
    (h : ∀ input ∈ inputs, Ends permitted (fun _ => True) (f input)) :
    Ends permitted (fun _ => True) (inputs.mapM f) := by
  cases given : inputs.mapM f with
  | ok results => trivial
  | error fault =>
    obtain ⟨_, input, hi, hfault, _⟩ := exists_of_mapM_eq_error given
    have hends := h input (List.mem_of_getElem? hi)
    rwa [hfault] at hends

/-- A list of outcomes has no fault if none of them has one. -/
theorem exists_mapM_eq_ok {f : α → Outcome β} {inputs : List α}
    (h : ∀ input ∈ inputs, ∃ result, f input = .ok result) :
    ∃ results, inputs.mapM f = .ok results := by
  induction inputs with
  | nil => exact ⟨[], rfl⟩
  | cons head rest ih =>
    obtain ⟨⟨first, hf⟩, hrest⟩ := List.forall_mem_cons.mp h
    obtain ⟨others, ho⟩ := ih hrest
    exact ⟨first :: others, by rw [List.mapM_cons, hf, ok_bind, ho]; rfl⟩

/-- Outcomes that are the same one by one are the same as a list. -/
theorem mapM_congr {f g : α → Outcome β} {inputs : List α}
    (h : ∀ input ∈ inputs, f input = g input) : inputs.mapM f = inputs.mapM g := by
  induction inputs with
  | nil => rfl
  | cons head rest ih =>
    have hhead := h head List.mem_cons_self
    have hrest := ih fun input member => h input (List.mem_cons_of_mem head member)
    rw [List.mapM_cons, List.mapM_cons, hhead, hrest]

/-- Two outcomes have the same value, or faults of one kind. -/
def Alike : Outcome α → Outcome α → Prop
  | .ok value, .ok value' => value = value'
  | .error fault, .error fault' => fault.sameKind fault' = true
  | _, _ => False

/-- An outcome is like itself. -/
theorem Alike.refl (outcome : Outcome α) : outcome.Alike outcome := by
  cases outcome with
  | ok value => exact rfl
  | error fault => cases fault <;> simp [Alike, Fault.sameKind]

/-- Equal outcomes are alike. -/
theorem alike_of_eq {a b : Outcome α} (h : a = b) : a.Alike b := h ▸ .refl a

/-- Being alike has no direction. -/
theorem Alike.symm {a b : Outcome α} (h : a.Alike b) : b.Alike a := by
  cases a with
  | ok value =>
    cases b with
    | ok value' => exact Eq.symm h
    | error fault => exact h.elim
  | error fault =>
    cases b with
    | ok value => exact h.elim
    | error fault' => exact Fault.sameKind_symm h

/-- Outcomes like one outcome are alike. -/
theorem Alike.trans {a b c : Outcome α} (h : a.Alike b) (h' : b.Alike c) : a.Alike c := by
  cases a with
  | ok value =>
    cases b with
    | ok value' =>
      have same : value = value' := h
      rwa [same]
    | error fault' => exact h.elim
  | error fault =>
    cases b with
    | ok value' => exact h.elim
    | error fault' =>
      cases c with
      | ok value'' => exact h'.elim
      | error fault'' => exact Fault.sameKind_trans h h'

/-- Reports of one kind are alike, whatever they say. -/
theorem alike_report (kind : ReportKind) (message message' : String)
    (facts facts' : List (String × Value)) :
    Alike (.error (.report kind message facts) : Outcome α)
      (.error (.report kind message' facts')) := by
  have hkind := (Report.addContext_kind_message ⟨kind, message, []⟩ facts).1
  have hkind' := (Report.addContext_kind_message ⟨kind, message', []⟩ facts').1
  simp only [Alike, Fault.report, Fault.sameKind, Report.of, hkind, hkind', beq_self_eq_true]

/-- Outcomes that are alike and go on alike from their value end alike. -/
theorem Alike.bind_of_eq {a b : Outcome α} {next next' : α → Outcome β} (h : a.Alike b)
    (hn : ∀ value, a = .ok value → (next value).Alike (next' value)) :
    (a >>= next).Alike (b >>= next') := by
  cases a with
  | ok value =>
    cases b with
    | ok value' =>
      have same : value = value' := h
      rw [← same]
      exact hn value rfl
    | error fault => exact h.elim
  | error fault =>
    cases b with
    | ok value => exact h.elim
    | error fault' => exact h

/-- Outcomes that are alike and go on alike end alike. -/
theorem Alike.bind {a b : Outcome α} {next next' : α → Outcome β} (h : a.Alike b)
    (hn : ∀ value, (next value).Alike (next' value)) : (a >>= next).Alike (b >>= next') :=
  h.bind_of_eq fun value _ => hn value

/-- Outcomes that are alike are alike after mapping. -/
theorem Alike.map {a b : Outcome α} (f : α → β) (h : a.Alike b) :
    Alike (a.map f) (b.map f) :=
  h.bind fun value => .refl (.ok (f value))

end Outcome

end OrcRows
