import Mathlib.Data.Finset.Card
import Mathlib.Data.Finset.Range
import Mathlib.Data.Finset.SDiff
import Mathlib.Logic.Relation
import TreeAdapter.Proofs.World.Handles

/-!
# What lives

An adapter is reached from the values that are held when it is one of theirs or stands in the cache
of one that is reached. That is when `upgrade` finds an adapter, and `isAlive` decides it
(`isAlive_iff_reaches`): its rounds come to an end, because each one adds an adapter that was made.
Counting comes to the same where each owner is made before what it owns (`counted_iff_reaches`):
there is nothing that keeps itself.
-/

namespace TreeAdapter.World
set_option autoImplicit false
open Relation

variable {w : World}

/-- The cache of one adapter holds the other. -/
def Owns (w : World) (owner id : Nat) : Prop :=
  id ∈ w.ownedBy owner

/-- An adapter is held, or owned by one that is reached. -/
def Reaches (w : World) (values : List Value) (id : Nat) : Prop :=
  ∃ root ∈ handles values, ReflTransGen w.Owns root id

/-- What counts as in use, by the handles to it and the caches of what is in use. -/
def Counted (w : World) (values : List Value) (used : Nat → Prop) : Prop :=
  ∀ id, used id ↔ id ∈ handles values ∨ ∃ owner, used owner ∧ w.Owns owner id

/-- An adapter owns the adapters in every value that it answers from its cache. -/
theorem owns_of_cached {a : Adapter} {key : String} {v : Value} (kept : w.cached a key = some v)
    {id : Nat} (mem : id ∈ v.heldAdapters) : w.Owns a.id id := by
  obtain ⟨entry, found, rfl⟩ := Option.map_eq_some_iff.1 kept
  exact List.mem_flatMap.2 ⟨entry, List.mem_of_find?_eq_some found, mem⟩

/-- What an adapter owns is found in its cache and nowhere else. -/
theorem ownedBy_congr {w' : World} {id : Nat}
    (same : (w'.adapter id).cache = (w.adapter id).cache) : w'.ownedBy id = w.ownedBy id := by
  rw [ownedBy, same, ownedBy]

/-- Storing a value adds the adapters in it to those that its owner has. -/
theorem ownedBy_store (w : World) (a : Adapter) (key : String) (v : Value) (id : Nat) :
    (w.store a key v).ownedBy id =
      if a.id = id ∧ id < w.adapters.size then v.heldAdapters ++ w.ownedBy id else w.ownedBy id := by
  rw [ownedBy, adapter_store]
  split <;> rfl

/-! ## Reaching -/

namespace Reaches
variable {values : List Value}

theorem of_held {id : Nat} (h : id ∈ handles values) : w.Reaches values id :=
  ⟨id, h, .refl⟩

theorem owned {owner id : Nat} (h : w.Reaches values owner) (owns : w.Owns owner id) :
    w.Reaches values id := by
  obtain ⟨root, held, path⟩ := h
  exact ⟨root, held, path.tail owns⟩

end Reaches

/-- What is reached is held, or owned by something reached. -/
theorem reaches_iff {values : List Value} {id : Nat} :
    w.Reaches values id ↔
      id ∈ handles values ∨ ∃ owner, w.Reaches values owner ∧ w.Owns owner id := by
  constructor
  · rintro ⟨root, held, path⟩
    rcases path.cases_tail with rfl | ⟨owner, path, owns⟩
    · exact .inl held
    · exact .inr ⟨owner, ⟨root, held, path⟩, owns⟩
  · rintro (held | ⟨owner, reached, owns⟩)
    · exact .of_held held
    · exact reached.owned owns

/-- Where owners come before what they own, counting has one result. -/
theorem counted_iff_reaches (later : ∀ owner id, w.Owns owner id → owner < id)
    {values : List Value} {used : Nat → Prop} :
    w.Counted values used ↔ ∀ id, used id ↔ w.Reaches values id := by
  constructor
  · intro counted id
    induction id using Nat.strongRecOn with
    | ind id ih =>
      rw [counted id, reaches_iff]
      refine or_congr_right (exists_congr fun owner => and_congr_left fun owns => ?_)
      exact ih owner (later owner id owns)
  · intro same id
    simp only [same]
    exact reaches_iff

/-! ## The rounds -/

/-- What one round adds. -/
def newlyOwned (w : World) (ids : List Nat) : List Nat :=
  (ids.flatMap w.ownedBy).filter fun id => !ids.contains id

theorem closure_succ (w : World) (rounds : Nat) (ids : List Nat) :
    w.closure (rounds + 1) ids = if (w.newlyOwned ids).isEmpty then ids
      else w.closure rounds (ids ++ (w.newlyOwned ids).eraseDups) := rfl

/-- A round adds what is owned by something known and is not known itself. -/
theorem mem_newlyOwned_iff {ids : List Nat} {id : Nat} :
    id ∈ w.newlyOwned ids ↔ (∃ owner ∈ ids, w.Owns owner id) ∧ id ∉ ids := by
  simp [newlyOwned, Owns]

/-- Rounds only add. -/
theorem subset_closure (w : World) (rounds : Nat) (ids : List Nat) : ids ⊆ w.closure rounds ids := by
  induction rounds generalizing ids with
  | zero => exact List.Subset.refl ids
  | succ rounds ih =>
    rw [closure_succ]
    split
    · exact List.Subset.refl ids
    · exact List.Subset.trans (List.subset_append_left _ _) (ih _)

/-- Whatever rounds add is owned, directly or not, by something that they started from. -/
theorem exists_root_of_mem_closure {rounds : Nat} {ids : List Nat} {id : Nat}
    (mem : id ∈ w.closure rounds ids) : ∃ root ∈ ids, ReflTransGen w.Owns root id := by
  induction rounds generalizing ids with
  | zero => exact ⟨id, mem, .refl⟩
  | succ rounds ih =>
    rw [closure_succ] at mem
    split at mem
    · exact ⟨id, mem, .refl⟩
    · obtain ⟨root, inside, path⟩ := ih mem
      rcases List.mem_append.1 inside with old | new
      · exact ⟨root, old, path⟩
      · obtain ⟨⟨owner, known, owns⟩, _⟩ := mem_newlyOwned_iff.1 (List.mem_eraseDups.1 new)
        exact ⟨owner, known, .head owns path⟩

/-- How many adapters were made that are not among `ids`. -/
def missing (w : World) (ids : List Nat) : Nat :=
  (Finset.range w.adapters.size \ ids.toFinset).card

theorem missing_le (w : World) (ids : List Nat) : w.missing ids ≤ w.adapters.size := by
  have below := Finset.card_le_card
    (Finset.sdiff_subset : Finset.range w.adapters.size \ ids.toFinset ⊆ _)
  rwa [Finset.card_range] at below

/-- A round that adds something leaves less missing, so as many rounds as there are adapters
suffice. -/
theorem missing_append_lt {ids new : List Nat} {id : Nat} (made : id < w.adapters.size)
    (absent : id ∉ ids) (mem : id ∈ new) : w.missing (ids ++ new) < w.missing ids := by
  have fewer : Finset.range w.adapters.size \ (ids ++ new).toFinset ⊆
      Finset.range w.adapters.size \ ids.toFinset := by
    rw [List.toFinset_append]
    exact Finset.sdiff_subset_sdiff (Finset.Subset.refl _) Finset.subset_union_left
  apply Finset.card_lt_card
  refine (Finset.ssubset_iff_of_subset fewer).2 ⟨id, ?_, ?_⟩
  · simp [made, absent]
  · simp [mem]

/-- With as many rounds as adapters are missing, nothing is left out that is owned. -/
theorem closure_closed (made : ∀ owner id, w.Owns owner id → id < w.adapters.size) {rounds : Nat}
    {ids : List Nat} (enough : w.missing ids ≤ rounds) {owner id : Nat}
    (mem : owner ∈ w.closure rounds ids) (owns : w.Owns owner id) : id ∈ w.closure rounds ids := by
  induction rounds generalizing ids with
  | zero =>
    by_contra absent
    have less : w.missing (ids ++ [id]) < w.missing ids :=
      missing_append_lt (made owner id owns) absent (List.mem_singleton_self id)
    omega
  | succ rounds ih =>
    rw [closure_succ] at mem ⊢
    split at mem
    · next settled =>
      rw [if_pos settled]
      by_contra absent
      have new : id ∈ w.newlyOwned ids := mem_newlyOwned_iff.2 ⟨⟨owner, mem, owns⟩, absent⟩
      rw [List.isEmpty_iff.1 settled] at new
      cases new
    · next growing =>
      rw [if_neg growing]
      refine ih ?_ mem
      obtain ⟨first, new⟩ : ∃ first, first ∈ w.newlyOwned ids :=
        List.exists_mem_of_ne_nil _ (mt List.isEmpty_iff.2 growing)
      obtain ⟨⟨holder, _, held⟩, absent⟩ := mem_newlyOwned_iff.1 new
      have less := missing_append_lt (made holder first held) absent (List.mem_eraseDups.2 new)
      omega

/-- Where what is owned was made, an adapter lives as long as it is reached. -/
theorem isAlive_iff_reaches (made : ∀ owner id, w.Owns owner id → id < w.adapters.size)
    {values : List Value} {a : Adapter} : w.isAlive values a = true ↔ w.Reaches values a.id := by
  rw [isAlive, List.contains_iff_mem]
  generalize a.id = id
  constructor
  · exact exists_root_of_mem_closure
  · rintro ⟨root, held, path⟩
    induction path with
    | refl => exact subset_closure w _ _ held
    | tail _ owns inside => exact closure_closed made (missing_le w _) inside owns

end TreeAdapter.World
