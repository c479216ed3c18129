import OrcRows.Proofs.Outcome
import Mathlib.Data.List.Nodup

/-!
# Picking by places

A selection of columns is a list of places, in the order of the selection. Picking by places goes
through all that is done with columns one by one: mapping, zipping, and outcomes that are all there.
-/

namespace OrcRows

variable {α β : Type} {places : List Nat}

/-- The members of a list at some places, in the order of the places. -/
def picked (places : List Nat) (xs : List α) : List α := places.filterMap (xs[·]?)

/-- The member at the first place is picked first. -/
theorem picked_cons {place : Nat} {xs : List α} {x : α} (h : xs[place]? = some x) :
    picked (place :: places) xs = x :: picked places xs := by
  rw [picked, List.filterMap_cons_some h, picked]

/-- As many members are picked as there are places. -/
theorem length_picked {xs : List α} (h : ∀ place ∈ places, place < xs.length) :
    (picked places xs).length = places.length := by
  induction places with
  | nil => rfl
  | cons place rest ih =>
    obtain ⟨inside, hrest⟩ := List.forall_mem_cons.mp h
    rw [picked_cons (List.getElem?_eq_getElem inside), List.length_cons, List.length_cons, ih hrest]

/-- Picking goes before or after mapping. -/
theorem picked_map (f : α → β) (xs : List α) :
    picked places (xs.map f) = (picked places xs).map f := by
  rw [picked, picked, List.map_filterMap]
  congr 1
  funext place
  exact List.getElem?_map

/-- Picking goes before or after zipping. -/
theorem picked_zip {xs : List α} {ys : List β} (h : ∀ place ∈ places, place < xs.length)
    (h' : ∀ place ∈ places, place < ys.length) :
    picked places (xs.zip ys) = (picked places xs).zip (picked places ys) := by
  induction places with
  | nil => rfl
  | cons place rest ih =>
    obtain ⟨inside, hrest⟩ := List.forall_mem_cons.mp h
    obtain ⟨inside', hrest'⟩ := List.forall_mem_cons.mp h'
    have hx := List.getElem?_eq_getElem inside
    have hy := List.getElem?_eq_getElem inside'
    have hpair : (xs.zip ys)[place]? = some (xs[place], ys[place]) :=
      List.getElem?_zip_eq_some.mpr ⟨hx, hy⟩
    rw [picked_cons hpair, picked_cons hx, picked_cons hy, List.zip_cons_cons, ih hrest hrest']

/-- Picking sees nothing of what is appended behind the places. -/
theorem picked_append {xs ys : List α} (h : ∀ place ∈ places, place < xs.length) :
    picked places (xs ++ ys) = picked places xs :=
  List.filterMap_congr fun place member => List.getElem?_append_left (h place member)

/-- Outcomes that are all there are there for the picked ones. -/
theorem mapM_picked {f : α → Outcome β} {xs : List α} {ys : List β} (h : xs.mapM f = .ok ys)
    (hp : ∀ place ∈ places, place < xs.length) :
    (picked places xs).mapM f = .ok (picked places ys) := by
  induction places with
  | nil => rfl
  | cons place rest ih =>
    obtain ⟨inside, hrest⟩ := List.forall_mem_cons.mp hp
    have hx := List.getElem?_eq_getElem inside
    obtain ⟨y, hy, hf⟩ := Outcome.getElem?_of_mapM_eq_ok h hx
    rw [picked_cons hx, picked_cons hy, List.mapM_cons, hf, Outcome.ok_bind, ih hrest]
    rfl

/-- Distinct members are picked once if the places are distinct. -/
theorem nodup_picked {xs : List α} (distinct : xs.Nodup) (h : places.Nodup) :
    (picked places xs).Nodup := by
  refine List.Nodup.filterMap (fun place place' x hx hx' => ?_) h
  have inside := (List.getElem?_eq_some_iff.mp (Option.mem_def.mp hx)).1
  exact (List.getElem?_inj inside distinct).mp
    ((Option.mem_def.mp hx).trans (Option.mem_def.mp hx').symm)

/-- Picked members come from the list. -/
theorem picked_subset (places : List Nat) (xs : List α) : picked places xs ⊆ xs := by
  intro x hx
  obtain ⟨place, _, found⟩ := List.mem_filterMap.mp hx
  exact List.mem_of_getElem? found

section Keys

variable [BEq α] [LawfulBEq α]

/-- The places of known members are places of the list. -/
theorem idxOf_lt_of_mem {xs names : List α} (known : names ⊆ xs) :
    ∀ place ∈ names.map xs.idxOf, place < xs.length := by
  intro place hp
  obtain ⟨name, hn, rfl⟩ := List.mem_map.mp hp
  exact List.idxOf_lt_length_of_mem (known hn)

/-- Picking at the places of known members gives these members. -/
theorem picked_idxOf {xs names : List α} (known : names ⊆ xs) :
    picked (names.map xs.idxOf) xs = names := by
  induction names with
  | nil => rfl
  | cons name rest ih =>
    obtain ⟨member, others⟩ := List.cons_subset.mp known
    rw [List.map_cons, picked_cons (List.getElem?_idxOf member), ih others]

/-- Distinct members have distinct places. -/
theorem nodup_map_idxOf {xs names : List α} (known : names ⊆ xs) (distinct : names.Nodup) :
    (names.map xs.idxOf).Nodup :=
  distinct.map_on fun _ hn _ _ same => (List.idxOf_inj (known hn)).mp same

end Keys

end OrcRows
