import OrcRows.Pattern.Match

/-!
# Groups that every match captures

A group may be left out of a match: by an alternative that does without it, or by a repetition that
makes no round. A pattern binds a group if no way through it leaves the group out. What a group has
captured is never lost on the way, so a bound group holds something behind every match.
-/

namespace OrcRows

namespace Cursor

/-- A group has captured something. -/
def Holds (cursor : Cursor) (group : Nat) : Prop :=
  ∃ capture ∈ cursor.captures, capture.group = group

/-- A group that holds something has a captured text. -/
theorem isSome_captured?_iff {cursor : Cursor} {group : Nat} :
    (cursor.captured? group).isSome ↔ cursor.Holds group := by
  rw [captured?, Option.isSome_map, List.find?_isSome]
  simp only [beq_iff_eq, Holds]

/-- A new capture keeps the others, and its own group holds something. -/
theorem holds_capture {cursor : Cursor} {group other : Nat} {text : List Char}
    (h : cursor.Holds group ∨ group = other) : (cursor.capture other text).Holds group := by
  obtain ⟨capture, member, same⟩ | rfl := h
  · exact ⟨capture, List.mem_cons_of_mem _ member, same⟩
  · exact ⟨_, List.mem_cons_self, rfl⟩

/-- Captures on another way are adopted with the groups that made them. -/
theorem holds_adopt {cursor reached : Cursor} {group : Nat} :
    (cursor.adopt reached).Holds group ↔ reached.Holds group := Iff.rfl

/-- A group on which a condition may count holds something. -/
theorem Holds.of_holdsCapture {cursor : Cursor} {group : Nat}
    (h : cursor.holdsCapture group = true) : cursor.Holds group := by
  rw [holdsCapture] at h
  split at h
  · cases h
  next found =>
    exact ⟨_, List.mem_of_find?_eq_some found, beq_iff_eq.mp (List.find?_some found :)⟩

end Cursor

/-- Every way through a matcher keeps what a group holds, and if the matcher binds the group, makes
it hold something. -/
def Matcher.Keeps (matcher : Matcher) (group : Nat) (binding : Bool) : Prop :=
  ∀ cursor next found, matcher cursor next = some found →
    ∃ reached, next reached = some found ∧
      (cursor.Holds group ∨ binding = true → reached.Holds group)

/-- The first way through a matcher keeps what a group holds. -/
theorem Matcher.Keeps.first {matcher : Matcher} {group : Nat} {binding : Bool}
    (h : matcher.Keeps group binding) {cursor reached : Cursor}
    (way : matcher cursor some = some reached)
    (before : cursor.Holds group ∨ binding = true) : reached.Holds group := by
  obtain ⟨_, same, held⟩ := h _ _ _ way
  cases same
  exact held before

/-- A way through a matcher goes on behind it, for a matcher that binds no less than another one. -/
theorem Matcher.Keeps.leads {matcher : Matcher} {group : Nat} {binding less : Bool}
    (h : matcher.Keeps group binding) {cursor found : Cursor} {next : Cursor → Option Cursor}
    (way : matcher cursor next = some found) (weaker : less = true → binding = true) :
    ∃ reached, next reached = some found ∧
      (cursor.Holds group ∨ less = true → reached.Holds group) := by
  obtain ⟨reached, way, held⟩ := h _ _ _ way
  exact ⟨reached, way, fun before => held (before.imp_right weaker)⟩

/-- A look around keeps what a group holds; if it has to succeed, also what the first way through
its matcher makes the group hold. -/
theorem keeps_look {group : Nat} {binding negated : Bool} {cursor found : Cursor}
    {next : Cursor → Option Cursor} {looked : Option Cursor}
    (way : (match looked with
      | some reached => if negated then none else next (cursor.adopt reached)
      | none => if negated then next cursor else none) = some found)
    (inside : ∀ reached, looked = some reached →
      (cursor.Holds group ∨ binding = true) → reached.Holds group) :
    ∃ reached, next reached = some found ∧
      (cursor.Holds group ∨ (!negated && binding) = true → reached.Holds group) := by
  split at way
  · split at way
    · cases way
    · refine ⟨_, way, fun before => Cursor.holds_adopt.mpr (inside _ rfl ?_)⟩
      rw [Bool.and_eq_true] at before
      exact before.imp_right And.right
  · split at way
    next denied => exact ⟨cursor, way, fun before => by simpa [denied] using before⟩
    next => cases way

namespace Pattern

/-- No way through a pattern leaves a group out. -/
def binds (group : Nat) : Pattern → Bool
  | empty | one _ | anchor _ => false
  | sequence first second => first.binds group || second.binds group
  | either first second => first.binds group && second.binds group
  | capture other body => group == other || body.binds group
  | reference other _ => group == other
  | repetition least _ _ body => least != 0 && body.binds group
  | lookahead negated body | lookbehind negated _ body => !negated && body.binds group
  | conditional other present absent =>
    (group == other || present.binds group) && absent.binds group
  | atomic body => body.binds group

variable {group : Nat}

/-- Rounds keep what a group holds; a group that the body binds is held after the first of them. -/
theorem keeps_rounds {body : Matcher} {binding : Bool} (h : body.Keeps group binding)
    (greedy : Bool) (fuel least : Nat) (most previous : Option Nat) :
    Matcher.Keeps (rounds body greedy fuel least most previous) group
      (least != 0 && binding) := by
  induction fuel generalizing least most previous with
  | zero =>
    intro cursor next found way
    cases way
  | succ fuel ih =>
    intro cursor next found way
    have round {remaining : Nat} {fewer earlier : Option Nat}
        (way : body cursor (fun reached =>
          rounds body greedy fuel remaining fewer earlier reached next) = some found) :
        ∃ reached, next reached = some found ∧
          (cursor.Holds group ∨ binding = true → reached.Holds group) := by
      obtain ⟨middle, way, first⟩ := h _ _ _ way
      obtain ⟨reached, way, second⟩ := ih _ _ _ _ _ _ way
      exact ⟨reached, way, fun held => second (.inl (first held))⟩
    cases least with
    | zero =>
      -- Either there is one more round, or the rounds end where they are.
      have onward : next cursor = some found ∨
          body cursor (fun reached => rounds body greedy fuel 0 (most.map (· - 1))
            (some cursor.after.length) reached next) = some found := by
        rw [rounds] at way
        grind
      obtain there | way := onward
      · exact ⟨cursor, there, fun held => by simpa using held⟩
      · obtain ⟨reached, way, held⟩ := round way
        exact ⟨reached, way, fun before => held (by simp_all)⟩
    | succ least =>
      obtain ⟨reached, way, held⟩ := round way
      exact ⟨reached, way, fun before => held (by simpa using before)⟩

/-- A pattern keeps what a group holds, and a group that it binds holds something behind it. -/
theorem keeps_matcher (pattern : Pattern) : pattern.matcher.Keeps group (pattern.binds group) := by
  induction pattern with
  | empty =>
    intro cursor next found way
    exact ⟨cursor, way, by simp [binds]⟩
  | one set =>
    intro cursor next found way
    rw [matcher] at way
    split at way
    · split at way
      · exact ⟨_, way, by simp [binds, Cursor.Holds, Cursor.advance]⟩
      · cases way
    · cases way
  | anchor condition =>
    intro cursor next found way
    rw [matcher] at way
    split at way
    · exact ⟨cursor, way, by simp [binds]⟩
    · cases way
  | sequence first second ih ih' =>
    intro cursor next found way
    obtain ⟨middle, way, held⟩ := ih _ _ _ way
    obtain ⟨reached, way, held'⟩ := ih' _ _ _ way
    refine ⟨reached, way, fun before => held' ?_⟩
    rw [binds, Bool.or_eq_true] at before
    grind
  | either first second ih ih' =>
    intro cursor next found way
    rw [matcher] at way
    split at way
    next other => exact ih.leads (other.trans way) fun both => (Bool.and_eq_true_iff.mp both).1
    next => exact ih'.leads way fun both => (Bool.and_eq_true_iff.mp both).2
  | capture other body ih =>
    intro cursor next found way
    obtain ⟨inner, way, held⟩ := ih _ _ _ way
    refine ⟨_, way, fun before => Cursor.holds_capture ?_⟩
    rw [binds, Bool.or_eq_true, beq_iff_eq] at before
    obtain before | equal | inside := before
    · exact .inl (held (.inl before))
    · exact .inr equal
    · exact .inl (held (.inr inside))
  | reference other casing =>
    intro cursor next found way
    rw [matcher] at way
    split at way
    · cases way
    next text captured =>
      split at way
      · refine ⟨_, way, fun before => ?_⟩
        rw [binds, beq_iff_eq] at before
        obtain before | rfl := before
        · exact before
        · have here : cursor.Holds group := by
            rw [← Cursor.isSome_captured?_iff, captured]
            rfl
          exact here
      · cases way
  | repetition least most greedy body ih =>
    intro cursor next found way
    exact keeps_rounds ih greedy _ least most none cursor next found way
  | lookahead negated body ih =>
    intro cursor next found way
    exact keeps_look way fun _ => ih.first
  | lookbehind negated width body ih =>
    intro cursor next found way
    rw [matcher] at way
    split at way
    · split at way
      next denied => exact ⟨cursor, way, fun before => by simpa [binds, denied] using before⟩
      next => cases way
    · exact keeps_look way fun _ => ih.first
  | conditional other present absent ih ih' =>
    intro cursor next found way
    rw [matcher] at way
    split at way
    next known =>
      obtain ⟨reached, way, held⟩ := ih _ _ _ way
      refine ⟨reached, way, fun before => held ?_⟩
      rw [binds, Bool.and_eq_true, Bool.or_eq_true, beq_iff_eq] at before
      obtain before | ⟨rfl | inside, _⟩ := before
      · exact .inl before
      · exact .inl (.of_holdsCapture known)
      · exact .inr inside
    next => exact ih'.leads way fun both => (Bool.and_eq_true_iff.mp both).2
  | atomic body ih =>
    intro cursor next found way
    rw [matcher, Option.bind_eq_some_iff] at way
    obtain ⟨inner, inside, way⟩ := way
    exact ⟨inner, way, ih.first inside⟩

/-- Behind every match of a pattern, a group that the pattern binds has captured something. -/
theorem isSome_captured?_of_binds {pattern : Pattern} (bound : pattern.binds group = true)
    {text : List Char} {reached : Cursor} (found : pattern.match? text = some reached) :
    (reached.captured? group).isSome :=
  Cursor.isSome_captured?_iff.mpr ((keeps_matcher pattern).first found (.inr bound))

end Pattern

end OrcRows
