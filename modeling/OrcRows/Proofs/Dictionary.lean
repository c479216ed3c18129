import OrcRows.Value
import Mathlib.Data.List.Induction

/-!
# A map as a dictionary

A map is made by entering pairs one after the other. What comes of it can be said without any order
of work: every distinct key has an entry, the entries stand in the order in which their keys first
occur, and each has the last value that was given to its key. A key that is not the same as itself
is an entry of its own each time.
-/

namespace OrcRows.Value

/-- The last value that pairs give to a key, or another one if they give none. -/
def lastValue (key otherwise : Value) (pairs : List (Value × Value)) : Value :=
  ((pairs.filter fun pair => same key pair.1).getLast?.map (·.2)).getD otherwise

/-- The distinct keys of pairs in order of first occurrence, each with its last value. -/
def dictionary : List (Value × Value) → List (Value × Value)
  | [] => []
  | (key, value) :: rest =>
    (key, lastValue key value rest) :: (dictionary rest).filter fun entry => !same key entry.1

/-- Keys among which sameness is symmetric and transitive. -/
def AreKeys (keys : List Value) : Prop :=
  ∀ a ∈ keys, ∀ b ∈ keys, same a b = same b a ∧
    ∀ c ∈ keys, same a b = true → same b c = true → same a c = true

/-- Some of the keys are keys. -/
theorem AreKeys.mono {keys keys' : List Value} (h : AreKeys keys) (hs : keys' ⊆ keys) :
    AreKeys keys' :=
  fun a ha b hb => ⟨(h a (hs ha) b (hs hb)).1, fun c hc => (h a (hs ha) b (hs hb)).2 c (hs hc)⟩

/-- The keys of a dictionary are keys of the pairs. -/
theorem mem_keys_of_mem_dictionary {pairs : List (Value × Value)} {entry : Value × Value}
    (h : entry ∈ dictionary pairs) : entry.1 ∈ pairs.map (·.1) := by
  induction pairs with
  | nil => exact absurd h List.not_mem_nil
  | cons pair rest ih =>
    rcases List.mem_cons.mp h with rfl | h
    · exact List.mem_cons_self
    · exact List.mem_cons_of_mem _ (ih (List.mem_filter.mp h).1)

/-- A pair of the key at the end is the last one. -/
theorem lastValue_append_of_same {key otherwise : Value} {pairs : List (Value × Value)}
    {pair : Value × Value} (h : same key pair.1 = true) :
    lastValue key otherwise (pairs ++ [pair]) = pair.2 := by
  simp [lastValue, List.filter_append, h]

/-- A pair of another key at the end does not count. -/
theorem lastValue_append_of_not_same {key otherwise : Value} {pairs : List (Value × Value)}
    {pair : Value × Value} (h : same key pair.1 = false) :
    lastValue key otherwise (pairs ++ [pair]) = lastValue key otherwise pairs := by
  simp [lastValue, List.filter_append, h]

/-- Entering a key changes nothing among the entries of other keys. -/
theorem filter_putEntry_of_same {key value first : Value} {entries : List (Value × Value)}
    (hk : same first key = true)
    (h : ∀ entry ∈ entries, same entry.1 key = true → same first entry.1 = true) :
    (putEntry key value entries).filter (fun entry => !same first entry.1) =
      entries.filter fun entry => !same first entry.1 := by
  induction entries with
  | nil => simp [putEntry, hk]
  | cons entry rest ih =>
    obtain ⟨present, old⟩ := entry
    obtain ⟨hhead, hrest⟩ := List.forall_mem_cons.mp h
    rw [putEntry]
    split
    case isTrue found => simp [hhead found]
    case isFalse other => rw [List.filter_cons, List.filter_cons, ih hrest]

/-- A key is entered among the entries of some keys as it is among all. -/
theorem filter_putEntry_of_not_same {key value first : Value} {entries : List (Value × Value)}
    (hk : same first key = false)
    (h : ∀ entry ∈ entries, same entry.1 key = true → same first entry.1 = false) :
    (putEntry key value entries).filter (fun entry => !same first entry.1) =
      putEntry key value (entries.filter fun entry => !same first entry.1) := by
  induction entries with
  | nil => simp [putEntry, hk]
  | cons entry rest ih =>
    obtain ⟨present, old⟩ := entry
    obtain ⟨hhead, hrest⟩ := List.forall_mem_cons.mp h
    rw [putEntry]
    split
    case isTrue found => simp [hhead found, putEntry, found]
    case isFalse other =>
      rw [List.filter_cons, List.filter_cons, ih hrest]
      split
      · rw [putEntry, if_neg other]
      · rfl

/-- A pair at the end is entered into the dictionary of the pairs before it. -/
theorem dictionary_append {pairs : List (Value × Value)} {pair : Value × Value}
    (h : AreKeys ((pairs ++ [pair]).map (·.1))) :
    dictionary (pairs ++ [pair]) = putEntry pair.1 pair.2 (dictionary pairs) := by
  induction pairs with
  | nil => rfl
  | cons head rest ih =>
    obtain ⟨key, value⟩ := head
    have hkeys : AreKeys ((rest ++ [pair]).map (·.1)) := h.mono (List.subset_cons_self _ _)
    have hkey : key ∈ ((key, value) :: (rest ++ [pair])).map (·.1) := List.mem_cons_self
    have hpair : pair.1 ∈ ((key, value) :: (rest ++ [pair])).map (·.1) := by simp
    have hentry : ∀ entry ∈ dictionary rest,
        entry.1 ∈ ((key, value) :: (rest ++ [pair])).map (·.1) := by
      intro entry hm
      have := mem_keys_of_mem_dictionary hm
      simp only [List.map_cons, List.map_append, List.mem_cons, List.mem_append]
      exact .inr (.inl this)
    rw [List.cons_append, dictionary, dictionary, ih hkeys, putEntry]
    split
    case isTrue found =>
      rw [lastValue_append_of_same found, filter_putEntry_of_same found]
      intro entry hm hs
      have hback := (h entry.1 (hentry entry hm) pair.1 hpair).1
      exact (h key hkey pair.1 hpair).2 entry.1 (hentry entry hm) found (hback ▸ hs)
    case isFalse other =>
      have hother : same key pair.1 = false := by simpa using other
      rw [lastValue_append_of_not_same hother, filter_putEntry_of_not_same hother]
      intro entry hm hs
      by_cases hfirst : same key entry.1 = true
      · exact absurd ((h key hkey entry.1 (hentry entry hm)).2 pair.1 hpair hfirst hs) other
      · simpa using hfirst

/-- A map of pairs is their dictionary. -/
theorem collectEntries_eq_dictionary {pairs : List (Value × Value)}
    (h : AreKeys (pairs.map (·.1))) : collectEntries pairs = dictionary pairs := by
  induction pairs using List.reverseRecOn with
  | nil => rfl
  | append_singleton pairs pair ih =>
    have hkeys : AreKeys (pairs.map (·.1)) := by
      rw [List.map_append] at h
      exact h.mono (List.subset_append_left _ _)
    rw [dictionary_append h, ← ih hkeys, collectEntries, List.foldl_append]
    rfl

end OrcRows.Value
