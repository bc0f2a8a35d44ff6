import Mathlib.Logic.Relation
import TreeAdapter.Proofs.World.Cache

/-!
# Steps

The parts that `invoke`, `next` and `has_next` are made of, and changes of trees between any two of
them, as a relation on worlds. Any sequence of steps is a run, and a world only grows on one
(`Run.grows`).
-/

namespace TreeAdapter.World
set_option autoImplicit false

/-! ## Reading -/

theorem read_eq {w : World} {a : Adapter} {m : Method}
    (getter : (m.category (w.factoryOf a).settings).isAccessor = true) :
    w.read a m =
      match m.requiredAddress (w.factoryOf a).settings with
      | .error e => (w, .error e)
      | .ok address => w.memoized a address.cacheKey (·.computed a m address) := by
  unfold read
  have other : m.category (w.factoryOf a).settings ≠ .backingResource := by
    intro eq
    simp [eq, Category.isAccessor] at getter
  rw [if_neg other]
  cases m.requiredAddress (w.factoryOf a).settings with
  | error e => rfl
  | ok address => exact answerAt_eq address getter

/-- A method that is no getter answers the resource or fails, and nothing is kept. -/
theorem read_of_not_getter {w : World} {a : Adapter} {m : Method}
    (other : (m.category (w.factoryOf a).settings).isAccessor = false) :
    w.read a m = (w, .ok (.resource a.resource)) ∨ ∃ e, w.read a m = (w, .error e) := by
  unfold read
  dsimp only
  split
  · exact .inl rfl
  · right
    split
    · exact ⟨_, rfl⟩
    · unfold answerAt
      split
      · next eq => simp [eq, Category.isAccessor] at other
      · next eq => simp [eq, Category.isAccessor] at other
      · next eq _ => simp [eq, Category.isAccessor] at other
      · exact ⟨_, rfl⟩

/-- A reading changes nothing, or keeps the one answer that it gives under a key that was free. -/
theorem read_cases (w : World) (a : Adapter) (m : Method) :
    (w.read a m).1 = w ∨ ∃ address u v, m.requiredAddress (w.factoryOf a).settings = .ok address ∧
      w.cached a address.cacheKey = none ∧ w.computed a m address = (u, .ok v) ∧
      w.read a m = (u.store a address.cacheKey v, .ok v) := by
  cases getter : (m.category (w.factoryOf a).settings).isAccessor with
  | false =>
    left
    rcases read_of_not_getter getter with eq | ⟨e, eq⟩ <;> rw [eq]
  | true =>
    rw [read_eq getter]
    cases m.requiredAddress (w.factoryOf a).settings with
    | error e => exact .inl rfl
    | ok address =>
      rcases memoized_cases w a address.cacheKey (·.computed a m address) with
        ⟨v, _, eq⟩ | ⟨free, u, v, computed, eq⟩ | ⟨_, u, e, computed, eq⟩
      · left
        show (w.memoized a address.cacheKey _).1 = w
        rw [eq]
      · exact .inr ⟨address, u, v, rfl, free, computed, eq⟩
      · left
        show (w.memoized a address.cacheKey _).1 = w
        rw [eq]
        exact computed_error computed

/-! ## Services -/

/-- A service that the adapter has, a search that fails, or a service that is found and built. -/
theorem serviceFor_cases (w : World) (a : Adapter) (b : ServiceBinding) :
    (∃ id, w.service? a b.service = some id ∧ w.serviceFor a b = (w, .ok id)) ∨
    (w.service? a b.service = none ∧
      ∃ e, (w.factoryOf a).services.resolve w.searches b = .error e ∧
        w.serviceFor a b = (w.countSearch, .error e)) ∨
    (w.service? a b.service = none ∧
      ∃ s, (w.factoryOf a).services.resolve w.searches b = .ok s ∧
        w.serviceFor a b =
          ((w.countSearch.newService a b.service s).1, .ok w.services.size)) := by
  unfold serviceFor
  cases w.service? a b.service with
  | some id => exact .inl ⟨id, rfl, rfl⟩
  | none =>
    right
    cases (w.factoryOf a).services.resolve w.searches b with
    | error e => exact .inl ⟨rfl, e, rfl, rfl⟩
    | ok s => exact .inr ⟨rfl, s, rfl, rfl⟩

theorem cursors_of_serviceFor {w u : World} {a : Adapter} {b : ServiceBinding}
    {outcome : Except AdapterError Nat} (h : w.serviceFor a b = (u, outcome)) :
    u.cursors = w.cursors := by
  rcases serviceFor_cases w a b with ⟨_, _, eq⟩ | ⟨_, _, _, eq⟩ | ⟨_, _, _, eq⟩ <;>
  · cases eq.symm.trans h
    rfl

theorem cursors_callService (w : World) (a : Adapter) (id : Nat) (method : String)
    (args : List Value) : (w.callService a id method args).1.cursors = w.cursors := by
  unfold callService
  split <;> rfl

/-! ## Steps -/

inductive Step : World → World → Prop where
  /-- A tree is replaced by any other. -/
  | tree (w : World) (n : Nat) (t : Tree) : Step w (w.setTree n t)
  | read (w : World) (a : Adapter) (m : Method) : Step w (w.read a m).1
  | service (w : World) (a : Adapter) (b : ServiceBinding) : Step w (w.serviceFor a b).1
  | call (w : World) (a : Adapter) (id : Nat) (method : String) (args : List Value) :
      Step w (w.callService a id method args).1
  | adapt {w w' : World} {factory : Factory} {r : Resource} {interface : String} {a : Adapter}
      (built : w.adapt factory r interface = .ok (w', a)) : Step w w'
  | object {w w' : World} {r : Resource} {target : String} {o : TreeObject}
      (given : w.adaptObject r target = some (w', o)) : Step w w'
  | hasNext (w : World) (c : Children) : Step w (w.hasNext c).1
  | next (w : World) (c : Children) : Step w (w.next c).1

abbrev Run : World → World → Prop :=
  Relation.ReflTransGen Step

/-- Only readings write to caches. -/
theorem Step.builds_or_read {w w' : World} (h : Step w w') :
    Builds w w' ∨ ∃ a m, w' = (w.read a m).1 := by
  cases h with
  | tree n t =>
    have same : (w.setTree n t).adapters = w.adapters := rfl
    exact .inl (.of_adapters_eq same)
  | read a m => exact .inr ⟨a, m, rfl⟩
  | service a b => exact .inl (.serviceFor w a b)
  | call a id method args => exact .inl (.callService w a id method args)
  | adapt built => exact .inl (.of_makes (.adapt built))
  | object given => exact .inl (.of_makes (.adaptObject given))
  | hasNext c => exact .inl (.hasNext w c)
  | next c => exact .inl (.next w c)

theorem builds_of_computed {w u : World} {a : Adapter} {m : Method} {address : Address}
    {outcome : Outcome} (h : w.computed a m address = (u, outcome)) : Builds w u :=
  .of_makes (makes_of_computed h)

theorem Step.grows {w w' : World} (h : Step w w') : Grows w w' := by
  rcases h.builds_or_read with builds | ⟨a, m, rfl⟩
  · exact builds.grows
  · rcases read_cases w a m with same | ⟨address, u, v, _, free, computed, eq⟩
    · rw [same]
      exact .refl w
    · have builds := builds_of_computed computed
      have free' : u.cached a address.cacheKey = none := by rw [builds.cached_eq, free]
      rw [eq]
      exact builds.grows.trans (.store v free')

theorem Run.grows {w w' : World} (run : Run w w') : Grows w w' := by
  induction run with
  | refl => exact .refl w
  | tail _ step ih => exact ih.trans step.grows

theorem run_of_read {w w' : World} {a : Adapter} {m : Method} {outcome : Outcome}
    (h : w.read a m = (w', outcome)) : Run w w' := by
  have step : Step w (w.read a m).1 := .read w a m
  rw [h] at step
  exact .single step

end TreeAdapter.World
