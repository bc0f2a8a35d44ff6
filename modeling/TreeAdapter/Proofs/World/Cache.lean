import TreeAdapter.Proofs.World.Making
import TreeAdapter.World.Dispatch

/-!
# The cache of an adapter

`Grows` compares a world with a later one: adapters keep the factory they were made with, and caches
only gain entries, under keys that had none. All getters look a key up with `cached` and keep what
they computed with `store`, in `memoized`, so `memoized_cases` says once what a look-up, a
computation and a store can do, and `answerAt_eq` that each getter is `memoized` around what it
computes from the tree.
-/

namespace TreeAdapter
set_option autoImplicit false

/-- A children getter has the metadata of one: no name makes a method one. -/
theorem Method.accessor_of_childrenGetter {m : Method} {settings : Settings}
    (h : m.category settings = .childrenGetter) : ∃ access, m.accessor = some (.children access) := by
  unfold category at h
  cases accessor : m.accessor with
  | none =>
    -- no name makes a getter of children
    simp only [accessor] at h
    repeat' split at h
    all_goals cases h
  | some metadata =>
    cases metadata with
    | property access =>
      simp only [accessor] at h
      split at h <;> cases h
    | reference access =>
      simp only [accessor] at h
      cases h
    | children access => exact ⟨access, rfl⟩

namespace World

/-! ## Growth -/

/-- A later world with the same caches: at most adapters were made. -/
structure Builds (w w' : World) : Prop where
  made : w.adapters.size ≤ w'.adapters.size
  factory : ∀ id, id < w.adapters.size → (w'.adapter id).factory = (w.adapter id).factory
  caches : ∀ id, (w'.adapter id).cache = (w.adapter id).cache

/-- A later world. -/
structure Grows (w w' : World) : Prop where
  made : w.adapters.size ≤ w'.adapters.size
  factory : ∀ id, id < w.adapters.size → (w'.adapter id).factory = (w.adapter id).factory
  entries : ∀ id, (w.adapter id).cache <:+ (w'.adapter id).cache
  answers : ∀ a key v, w.cached a key = some v → w'.cached a key = some v

namespace Builds

/-- A later world with the same caches answers as before. -/
theorem cached_eq {w w' : World} (h : Builds w w') (a : Adapter) (key : String) :
    w'.cached a key = w.cached a key := by
  rw [cached, h.caches, cached]

/-- Building keeps every stored value. -/
theorem grows {w w' : World} (h : Builds w w') : Grows w w' where
  made := h.made
  factory := h.factory
  entries := fun id => (h.caches id).symm ▸ List.suffix_rfl
  answers := fun a key v found => by rwa [h.cached_eq]

theorem of_adapters_eq {w w' : World} (h : w'.adapters = w.adapters) : Builds w w' := by
  have same : w'.adapter = w.adapter := by
    funext id
    rw [adapter, h, adapter]
  exact ⟨Nat.le_of_eq (congrArg Array.size h.symm), fun id _ => by rw [same], fun id => by rw [same]⟩

theorem trans {w w' w'' : World} (first : Builds w w') (second : Builds w' w'') : Builds w w'' where
  made := Nat.le_trans first.made second.made
  factory := fun id made =>
    (second.factory id (Nat.lt_of_lt_of_le made first.made)).trans (first.factory id made)
  caches := fun id => (second.caches id).trans (first.caches id)

/-- Changing other parts of the state of an adapter leaves its factory and its cache. -/
theorem modify (w : World) (n : Nat) (f : AdapterState → AdapterState)
    (factory : ∀ s, (f s).factory = s.factory) (caches : ∀ s, (f s).cache = s.cache) :
    Builds w { w with adapters := w.adapters.modify n f } where
  made := by simp
  factory := by
    intro id _
    rw [adapter_modify]
    split
    · exact factory _
    · rfl
  caches := by
    intro id
    rw [adapter_modify]
    split
    · exact caches _
    · rfl

/-- What is made leaves every cache that there is. -/
theorem of_makes {w w' : World} (h : Makes w w') : Builds w w' where
  made := h.adapters
  factory := fun id made => by rw [h.adapter id made]
  caches := h.cache_eq

theorem hasNext (w : World) (c : Children) : Builds w (w.hasNext c).1 :=
  of_adapters_eq rfl

/-- Taking an element of a collection stores nothing; an adapter made for it has an empty cache. -/
theorem next (w : World) (c : Children) : Builds w (w.next c).1 := by
  refine trans ?_ (of_makes (.next w c))
  exact of_adapters_eq rfl

theorem newService (w : World) (a : Adapter) (interface : String) (service : Service) :
    Builds w (w.newService a interface service).1 := by
  refine trans ?_ (modify { w with services := w.services.push ⟨service, 0⟩ } a.id
    (fun s => { s with services := (interface, w.services.size) :: s.services })
    (fun _ => rfl) fun _ => rfl)
  exact of_adapters_eq rfl

theorem serviceFor (w : World) (a : Adapter) (b : ServiceBinding) :
    Builds w (w.serviceFor a b).1 := by
  unfold World.serviceFor
  split
  · exact of_adapters_eq rfl
  · split
    · exact of_adapters_eq rfl
    · next service _ =>
      refine trans ?_ (newService w.countSearch a b.service service)
      exact of_adapters_eq rfl

/-- Counting a call of a service stores nothing in a cache. -/
theorem callService (w : World) (a : Adapter) (id : Nat) (method : String) (args : List Value) :
    Builds w (w.callService a id method args).1 := by
  unfold World.callService
  split
  · exact of_adapters_eq rfl
  · exact of_adapters_eq rfl

end Builds

namespace Grows

theorem refl (w : World) : Grows w w :=
  (Builds.of_adapters_eq rfl).grows

theorem trans {w w' w'' : World} (first : Grows w w') (second : Grows w' w'') : Grows w w'' where
  made := Nat.le_trans first.made second.made
  factory := fun id made =>
    (second.factory id (Nat.lt_of_lt_of_le made first.made)).trans (first.factory id made)
  entries := fun id => (first.entries id).trans (second.entries id)
  answers := fun a key v h => second.answers a key v (first.answers a key v h)

/-- A store under a key that has no entry yet. -/
theorem store {w : World} {a : Adapter} {key : String} (v : Value)
    (free : w.cached a key = none) : Grows w (w.store a key v) where
  made := by simp [World.store]
  factory := by
    intro id _
    rw [adapter_store]
    split <;> rfl
  entries := by
    intro id
    rw [adapter_store]
    split
    · exact List.suffix_cons _ _
    · exact List.suffix_rfl
  answers := by
    intro b k u found
    rw [cached, adapter_store]
    split
    · next same =>
      have apart : key ≠ k := by
        rintro rfl
        rw [cached, same.1, ← cached, found] at free
        cases free
      rw [List.find?_cons_of_neg (by simpa using apart)]
      exact found
    · exact found

end Grows

/-- A value just stored is the one found. -/
theorem cached_store_self {w : World} {a : Adapter} (made : a.id < w.adapters.size) (key : String)
    (v : Value) : (w.store a key v).cached a key = some v := by
  rw [cached, adapter_store, if_pos ⟨rfl, made⟩]
  simp

/-! ## Getters -/

/-- What a getter computes from the trees, whatever is cached. -/
def computed (w : World) (a : Adapter) (m : Method) (address : Address) : World × Outcome :=
  match m.category (w.factoryOf a).settings, m.accessor with
  | .propertyGetter, _ => (w, w.propertyAnswer (w.factoryOf a).settings a.resource m address)
  | .referenceGetter, _ =>
    let (w, v) := w.referenceAnswer (w.factoryOf a) a.resource m address
    (w, .ok v)
  | .childrenGetter, some (.children access) =>
    let factory := w.factoryOf a
    let (w, c) := w.newChildren factory access.element
      ((w.listedChildren factory a.resource access address).map some)
    (w, .ok (.children c))
  | _, _ => (w, .error (.readOnly m.name))

/-- Computing the answer of a getter makes things and stores nothing. -/
theorem Makes.computed (w : World) (a : Adapter) (m : Method) (address : Address) :
    Makes w (w.computed a m address).1 := by
  unfold World.computed
  split
  · exact .refl w
  · show Makes w (w.referenceAnswer _ _ _ _).1
    unfold referenceAnswer
    split
    · exact .materialize _ _ _ _
    · exact .refl w
  · next access _ _ => exact .newChildren w (w.factoryOf a) access.element _
  · exact .refl w

theorem makes_of_computed {w u : World} {a : Adapter} {m : Method} {address : Address}
    {outcome : Outcome} (h : w.computed a m address = (u, outcome)) : Makes w u := by
  have makes := Makes.computed w a m address
  rwa [h] at makes

/-- What fails has changed nothing. -/
theorem computed_error {w u : World} {a : Adapter} {m : Method} {address : Address}
    {e : AdapterError} (h : w.computed a m address = (u, .error e)) : u = w := by
  unfold computed at h
  split at h
  · exact (Prod.mk.inj h).1.symm
  · cases h
  · cases h
  · exact (Prod.mk.inj h).1.symm

/-- The look-up, what is computed on a miss, and the store of what succeeds. -/
theorem memoized_cases (w : World) (a : Adapter) (key : String)
    (compute : World → World × Outcome) :
    (∃ v, w.cached a key = some v ∧ w.memoized a key compute = (w, .ok v)) ∨
    (w.cached a key = none ∧ ∃ u v, compute w = (u, .ok v) ∧
      w.memoized a key compute = (u.store a key v, .ok v)) ∨
    (w.cached a key = none ∧ ∃ u e, compute w = (u, .error e) ∧
      w.memoized a key compute = (u, .error e)) := by
  unfold memoized
  cases hit : w.cached a key with
  | some v => exact .inl ⟨v, rfl, rfl⟩
  | none =>
    right
    rcases computed : compute w with ⟨u, outcome⟩
    cases outcome with
    | ok v => exact .inl ⟨rfl, u, v, rfl, rfl⟩
    | error e => exact .inr ⟨rfl, u, e, rfl, rfl⟩

/-- A memoized answer asks of the computation only what it gives in the present world. -/
theorem memoized_congr {w : World} {compute compute' : World → World × Outcome} (a : Adapter)
    (key : String) (h : compute w = compute' w) :
    w.memoized a key compute = w.memoized a key compute' := by
  unfold memoized
  rw [h]

/-- The answer of an accessor at an address is memoized under the key of the address. -/
theorem answerAt_eq {w : World} {a : Adapter} {m : Method} (address : Address)
    (getter : (m.category (w.factoryOf a).settings).isAccessor = true) :
    w.answerAt a m address = w.memoized a address.cacheKey (·.computed a m address) := by
  unfold answerAt
  split
  · next category =>
    refine memoized_congr a _ ?_
    simp only [computed, category]
  · next category =>
    refine memoized_congr a _ ?_
    simp only [computed, category]
  · next category access =>
    refine memoized_congr a _ ?_
    simp only [computed, category, access]
  · next noProperty noReference noChildren =>
    cases category : m.category (w.factoryOf a).settings with
    | propertyGetter => exact absurd category noProperty
    | referenceGetter => exact absurd category noReference
    | childrenGetter =>
      obtain ⟨access, eq⟩ := Method.accessor_of_childrenGetter category
      exact absurd eq (noChildren access category)
    | _ => simp [category, Category.isAccessor] at getter

end World
end TreeAdapter
