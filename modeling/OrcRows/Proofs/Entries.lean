import OrcRows.Value
import Mathlib.Data.List.Forall2

/-!
# The entries of a map

A map is made by entering pairs of keys and values one after the other. Its entries have keys and
values of those pairs only, and no two of its keys are the same. Maps of pairs that correspond to
each other have corresponding entries, if the same keys are the same on both sides.
-/

namespace OrcRows.Value

/-- The entries of a map have pairwise different keys. -/
def DistinctKeys (entries : List (Value × Value)) : Prop :=
  entries.Pairwise fun entry later => same entry.1 later.1 = false

/-- What holds of a new key and a new value, and of the entries so far, holds after entering. -/
theorem forall_putEntry (onKey onValue : Value → Prop) {key value : Value}
    {entries : List (Value × Value)} (hk : onKey key) (hv : onValue value)
    (h : ∀ entry ∈ entries, onKey entry.1 ∧ onValue entry.2) :
    ∀ entry ∈ putEntry key value entries, onKey entry.1 ∧ onValue entry.2 := by
  induction entries with
  | nil =>
    intro entry hm
    rw [putEntry, List.mem_singleton] at hm
    exact hm ▸ ⟨hk, hv⟩
  | cons head rest ih =>
    obtain ⟨present, old⟩ := head
    obtain ⟨hhead, hrest⟩ := List.forall_mem_cons.mp h
    rw [putEntry]
    split
    · exact List.forall_mem_cons.mpr ⟨⟨hhead.1, hv⟩, hrest⟩
    · exact List.forall_mem_cons.mpr ⟨hhead, ih hrest⟩

/-- Entering a key keeps the keys different. -/
theorem distinctKeys_putEntry {key value : Value} {entries : List (Value × Value)}
    (h : DistinctKeys entries) : DistinctKeys (putEntry key value entries) := by
  induction entries with
  | nil => exact List.pairwise_singleton ..
  | cons head rest ih =>
    obtain ⟨present, old⟩ := head
    obtain ⟨hhead, hrest⟩ := List.pairwise_cons.mp h
    rw [putEntry]
    split
    case isTrue found => exact List.pairwise_cons.mpr ⟨hhead, hrest⟩
    case isFalse other =>
      refine List.pairwise_cons.mpr ⟨?_, ih hrest⟩
      intro entry hm
      exact (forall_putEntry (fun other => same present other = false) (fun _ => True)
        (by simpa using other) trivial (fun entry hm => ⟨hhead entry hm, trivial⟩) entry hm).1

/-- What holds of all keys and values that are entered holds of the entries of the map. -/
theorem forall_collectEntries (onKey onValue : Value → Prop) {pairs : List (Value × Value)}
    (h : ∀ pair ∈ pairs, onKey pair.1 ∧ onValue pair.2) :
    ∀ entry ∈ collectEntries pairs, onKey entry.1 ∧ onValue entry.2 := by
  have hfold : ∀ entries : List (Value × Value),
      (∀ entry ∈ entries, onKey entry.1 ∧ onValue entry.2) →
      ∀ entry ∈ pairs.foldl (fun entries pair => putEntry pair.1 pair.2 entries) entries,
        onKey entry.1 ∧ onValue entry.2 := by
    induction pairs with
    | nil => exact fun entries he => he
    | cons pair rest ih =>
      obtain ⟨hpair, hrest⟩ := List.forall_mem_cons.mp h
      exact fun entries he => ih hrest _ (forall_putEntry _ _ hpair.1 hpair.2 he)
  exact hfold [] (by simp)

/-- The keys of a map are different. -/
theorem distinctKeys_collectEntries (pairs : List (Value × Value)) :
    DistinctKeys (collectEntries pairs) := by
  have hfold : ∀ entries : List (Value × Value), DistinctKeys entries →
      DistinctKeys (pairs.foldl (fun entries pair => putEntry pair.1 pair.2 entries) entries) := by
    induction pairs with
    | nil => exact fun entries he => he
    | cons pair rest ih => exact fun entries he => ih _ (distinctKeys_putEntry he)
  exact hfold [] List.Pairwise.nil

section Correspondence

variable {linked valued : Value → Value → Prop}

/-- Corresponding keys and values are entered among corresponding entries. -/
theorem forall₂_putEntry {key key' value value' : Value} {entries entries' : List (Value × Value)}
    (h : List.Forall₂ (fun entry entry' => (linked entry.1 entry'.1 ∧ valued entry.2 entry'.2) ∧
      same entry.1 key = same entry'.1 key') entries entries')
    (hk : linked key key') (hv : valued value value') :
    List.Forall₂ (fun entry entry' => linked entry.1 entry'.1 ∧ valued entry.2 entry'.2)
      (putEntry key value entries) (putEntry key' value' entries') := by
  induction h with
  | nil => exact .cons ⟨hk, hv⟩ .nil
  | @cons entry entry' rest rest' first others ih =>
    obtain ⟨present, old⟩ := entry
    obtain ⟨present', old'⟩ := entry'
    obtain ⟨⟨hpresent, hold⟩, agree⟩ := first
    have agree : same present key = same present' key' := agree
    rw [putEntry, putEntry, agree]
    split
    · exact .cons ⟨hpresent, hv⟩ (others.imp fun _ _ h => h.1)
    · exact .cons ⟨hpresent, hold⟩ ih

/-- Maps of corresponding pairs have corresponding entries, if two keys are the same on one side
exactly if the corresponding keys are the same on the other. -/
theorem forall₂_collectEntries {pairs pairs' : List (Value × Value)}
    (h : List.Forall₂ (fun pair pair' => linked pair.1 pair'.1 ∧ valued pair.2 pair'.2) pairs
      pairs')
    (agree : (pairs.zip pairs').Pairwise fun earlier later =>
      same earlier.1.1 later.1.1 = same earlier.2.1 later.2.1) :
    List.Forall₂ (fun entry entry' => linked entry.1 entry'.1 ∧ valued entry.2 entry'.2)
      (collectEntries pairs) (collectEntries pairs') := by
  -- the keys entered so far agree with those to come
  have hfold : ∀ entries entries' : List (Value × Value),
      List.Forall₂ (fun entry entry' => (linked entry.1 entry'.1 ∧
        ∀ later ∈ pairs.zip pairs', same entry.1 later.1.1 = same entry'.1 later.2.1) ∧
        valued entry.2 entry'.2) entries entries' →
      List.Forall₂ (fun entry entry' => linked entry.1 entry'.1 ∧ valued entry.2 entry'.2)
        (pairs.foldl (fun entries pair => putEntry pair.1 pair.2 entries) entries)
        (pairs'.foldl (fun entries pair => putEntry pair.1 pair.2 entries) entries') := by
    induction h with
    | nil => exact fun entries entries' he => he.imp fun _ _ h => ⟨h.1.1, h.2⟩
    | @cons pair pair' rest rest' first _ ih =>
      rw [List.zip_cons_cons, List.pairwise_cons] at agree
      intro entries entries' he
      rw [List.foldl_cons, List.foldl_cons]
      apply ih agree.2
      refine @forall₂_putEntry (fun key key' => linked key key' ∧
        ∀ later ∈ rest.zip rest', same key later.1.1 = same key' later.2.1) valued _ _ _ _ _ _
        (he.imp ?_) ⟨first.1, agree.1⟩ first.2
      rintro entry entry' ⟨⟨hkey, hlater⟩, hvalue⟩
      obtain ⟨hnow, hrest⟩ := List.forall_mem_cons.mp hlater
      exact ⟨⟨⟨hkey, hrest⟩, hvalue⟩, hnow⟩
  exact hfold [] [] .nil

end Correspondence

end OrcRows.Value
