import TreeAdapter.Proofs.Except
import TreeAdapter.World.Adapting

/-!
# Making adapters, collections and objects

Adapters, collections and services are numbered in the order in which they are made, and `Makes`
says of a later world that nothing else has happened to it: what was there is as it was, and what is
new holds nothing yet. That much is done by `get_adapter`, `get_children` and `materialize`.
`Materializes` says what a resource becomes as a declared type, and `materializes_materialize` that
`World.materialize` gives that.
-/

namespace TreeAdapter
set_option autoImplicit false

/-- What an interface has to be so that adapters can be built for it: registered, with an accessor,
and with no filter that is unknown. -/
theorem Factory.interface_eq_ok_iff {f : Factory} {name : String} {i : Interface} :
    f.interface name = .ok i ↔ f.registry.get? name = some i ∧ i.isAdaptable f.settings = true ∧
      ∀ m ∈ i.methods, f.unknownFilter? m = none := by
  unfold Factory.interface
  cases found : f.registry.get? name with
  | none => simp
  | some j =>
    simp only [Option.some.injEq]
    cases adaptable : j.isAdaptable f.settings with
    | false =>
      simp only [Bool.not_false, if_true, reduceCtorEq, false_iff]
      rintro ⟨rfl, adaptable', -⟩
      exact absurd (adaptable.symm.trans adaptable') (by decide)
    | true =>
      simp only [Bool.not_true, Bool.false_eq_true, if_false]
      cases unknown : j.methods.findSome? fun m =>
          (f.unknownFilter? m).map fun filter => (m.name, filter) with
      | none =>
        have known := List.findSome?_eq_none_iff.1 unknown
        simp only [Option.map_eq_none_iff] at known
        constructor
        · intro fit
          cases fit
          exact ⟨rfl, adaptable, known⟩
        · rintro ⟨rfl, -⟩
          rfl
      | some first =>
        refine iff_of_false (by simp) ?_
        rintro ⟨rfl, -, known⟩
        obtain ⟨m, mem, filter⟩ := List.exists_of_findSome?_eq_some unknown
        rw [known m mem] at filter
        cases filter

/-- An interface that adapters can be built for is registered under its name. -/
theorem Factory.get?_of_interface {f : Factory} {name : String} {i : Interface}
    (h : f.interface name = .ok i) : f.registry.get? name = some i :=
  (interface_eq_ok_iff.1 h).1

namespace World

/-! ## States by number -/

/-- A new adapter gets the next index, and the states of the others stay. -/
theorem adapter_push (w : World) (s : AdapterState) (id : Nat) :
    { w with adapters := w.adapters.push s }.adapter id =
      if id = w.adapters.size then s else w.adapter id := by
  simp only [adapter, Array.getD_eq_getD_getElem?, Array.getElem?_push]
  split <;> rfl

/-- Modifying the state of an adapter leaves those of the others. -/
theorem adapter_modify (w : World) (n : Nat) (f : AdapterState → AdapterState) (id : Nat) :
    { w with adapters := w.adapters.modify n f }.adapter id =
      if n = id ∧ id < w.adapters.size then f (w.adapter id) else w.adapter id := by
  simp only [adapter, Array.getD_eq_getD_getElem?, Array.getElem?_modify]
  by_cases made : id < w.adapters.size
  · by_cases same : n = id <;> simp [same, made]
  · by_cases same : n = id <;> simp [same, made]

/-- An adapter that was not made has the default state, with nothing stored. -/
theorem adapter_of_not_made {w : World} {id : Nat} (h : ¬id < w.adapters.size) :
    w.adapter id = default := by
  simp [adapter, Array.getD_eq_getD_getElem?, h]

/-- Storing a value adds it to the cache of one adapter, in front. -/
theorem adapter_store (w : World) (a : Adapter) (key : String) (v : Value) (id : Nat) :
    (w.store a key v).adapter id =
      if a.id = id ∧ id < w.adapters.size then
        { w.adapter id with cache := (key, v) :: (w.adapter id).cache }
      else w.adapter id :=
  adapter_modify w a.id _ id

theorem adapter_congr {w w' : World} (h : w'.adapters = w.adapters) (id : Nat) :
    w'.adapter id = w.adapter id := by
  rw [adapter, h, adapter]

/-- A new adapter belongs to the factory that made it. -/
theorem factoryOf_newAdapter (w : World) (factory : Factory) (i : Interface) (r : Resource) :
    (w.newAdapter factory i r).1.factoryOf (w.newAdapter factory i r).2 = factory := by
  rw [factoryOf, newAdapter, adapter_push, if_pos rfl]

theorem cursor_congr {w w' : World} (h : w'.cursors = w.cursors) (id : Nat) :
    w'.cursor id = w.cursor id := by
  rw [cursor, h, cursor]

theorem cursor_push (w : World) (c : Cursor) (id : Nat) :
    { w with cursors := w.cursors.push c }.cursor id =
      if id = w.cursors.size then c else w.cursor id := by
  simp only [cursor, Array.getD_eq_getD_getElem?, Array.getElem?_push]
  split <;> rfl

/-- Setting a cursor moves it alone. -/
theorem cursor_setCursor (w : World) (n : Nat) (c : Cursor) (id : Nat) :
    (w.setCursor n c).cursor id = if n = id ∧ id < w.cursors.size then c else w.cursor id := by
  simp only [setCursor, cursor, Array.getD_eq_getD_getElem?, Array.getElem?_setIfInBounds]
  by_cases same : n = id
  · by_cases made : id < w.cursors.size <;> simp [same, made]
  · simp [same]

/-! ## Making -/

/-- A later world in which at most adapters, collections and objects were made. -/
structure Makes (w w' : World) : Prop where
  trees : w'.trees = w.trees
  services : w'.services = w.services
  adapters : w.adapters.size ≤ w'.adapters.size
  adapter : ∀ id, id < w.adapters.size → w'.adapter id = w.adapter id
  bare : ∀ id, ¬id < w.adapters.size → (w'.adapter id).cache = [] ∧ (w'.adapter id).services = []
  cursors : w.cursors.size ≤ w'.cursors.size
  cursor : ∀ id, id < w.cursors.size → w'.cursor id = w.cursor id

namespace Makes

/-- A world in which only objects were made. -/
theorem of_eq {w w' : World} (trees : w'.trees = w.trees) (services : w'.services = w.services)
    (adapters : w'.adapters = w.adapters) (cursors : w'.cursors = w.cursors) : Makes w w' where
  trees := trees
  services := services
  adapters := Nat.le_of_eq (congrArg Array.size adapters.symm)
  adapter := fun id _ => adapter_congr adapters id
  bare := by
    intro id new
    rw [adapter_congr adapters, adapter_of_not_made new]
    exact ⟨rfl, rfl⟩
  cursors := Nat.le_of_eq (congrArg Array.size cursors.symm)
  cursor := fun id _ => cursor_congr cursors id

theorem refl (w : World) : Makes w w :=
  of_eq rfl rfl rfl rfl

/-- A cache that is empty or was there before is the one that was there before. -/
theorem cache_eq {w w' : World} (h : Makes w w') (id : Nat) :
    (w'.adapter id).cache = (w.adapter id).cache := by
  by_cases made : id < w.adapters.size
  · rw [h.adapter id made]
  · rw [(h.bare id made).1, adapter_of_not_made made]
    rfl

/-- What is made leaves the services of each adapter, and a new adapter has none. -/
theorem services_eq {w w' : World} (h : Makes w w') (id : Nat) :
    (w'.adapter id).services = (w.adapter id).services := by
  by_cases made : id < w.adapters.size
  · rw [h.adapter id made]
  · rw [(h.bare id made).2, adapter_of_not_made made]
    rfl

/-- A new adapter is made with an empty cache and without services. -/
theorem newAdapter (w : World) (factory : Factory) (i : Interface) (r : Resource) :
    Makes w (w.newAdapter factory i r).1 where
  trees := rfl
  services := rfl
  adapters := by simp [World.newAdapter]
  adapter := by
    intro id made
    rw [World.newAdapter, adapter_push, if_neg (Nat.ne_of_lt made)]
  bare := by
    intro id new
    rw [World.newAdapter, adapter_push]
    split
    · exact ⟨rfl, rfl⟩
    · rw [adapter_of_not_made new]
      exact ⟨rfl, rfl⟩
  cursors := Nat.le_refl _
  cursor := fun _ _ => rfl

/-- A new collection is made; no cursor that was there moves. -/
theorem newChildren (w : World) (factory : Factory) (element : DeclaredType)
    (resources : List (Option Resource)) :
    Makes w (w.newChildren factory element resources).1 where
  trees := rfl
  services := rfl
  adapters := Nat.le_refl _
  adapter := fun _ _ => rfl
  bare := (of_eq rfl rfl rfl rfl : Makes w w).bare
  cursors := by simp [World.newChildren]
  cursor := by
    intro id made
    rw [World.newChildren, cursor_push, if_neg (Nat.ne_of_lt made)]

end Makes

/-- A resource that no longer exists is adapted to nothing: the error names its path. -/
theorem adapt_of_missing {w : World} {r : Resource} (missing : w.holds r = false)
    (factory : Factory) (interface : String) :
    w.adapt factory r interface = .error (.invalidSpec (.missingBacking r.path.text)) := by
  rw [adapt, missing]
  rfl

/-- A resource that exists is adapted to every interface that the factory has, and the error is that
of the lookup. -/
theorem adapt_of_holds {w : World} {r : Resource} (present : w.holds r = true)
    (factory : Factory) (interface : String) :
    w.adapt factory r interface =
      (factory.interface interface).map fun i => w.newAdapter factory i r := by
  rw [adapt, present]
  cases factory.interface interface with
  | error e => rfl
  | ok i => rfl

/-- What building an adapter asks for, and what it does. -/
theorem adapt_eq_ok_iff {w w' : World} {factory : Factory} {r : Resource} {interface : String}
    {a : Adapter} :
    w.adapt factory r interface = .ok (w', a) ↔
      w.holds r = true ∧ ∃ i, factory.interface interface = .ok i ∧
        w.newAdapter factory i r = (w', a) := by
  cases present : w.holds r with
  | false => simp [adapt_of_missing present]
  | true =>
    rw [adapt_of_holds present]
    cases factory.interface interface with
    | error e => simp [Except.map]
    | ok i => simp [Except.map]

/-- An adapter that was just built keeps its factory, has an interface of the registry under the name
that was asked for, and is over the resource. -/
theorem built_of_adapt {w w' : World} {factory : Factory} {r : Resource} {interface : String}
    {a : Adapter} (built : w.adapt factory r interface = .ok (w', a)) :
    a.id < w'.adapters.size ∧ w'.factoryOf a = factory ∧
      factory.registry.get? interface = some a.interface ∧ a.resource = r := by
  obtain ⟨_, i, fit, made⟩ := adapt_eq_ok_iff.1 built
  obtain ⟨rfl, rfl⟩ := Prod.mk.inj made
  exact ⟨by simp, factoryOf_newAdapter w factory i r, Factory.get?_of_interface fit, rfl⟩

/-- A resource becomes an adapter only by building one. -/
theorem adapt_of_materialize {w w' : World} {factory : Factory} {r : Resource}
    {declared : DeclaredType} {a : Adapter}
    (h : w.materialize factory r declared = (w', .adapter a)) :
    w.adapt factory r declared.targetName = .ok (w', a) := by
  unfold materialize at h
  split at h
  · cases h
  · split at h
    · cases h
    · split at h
      · next u b built =>
        cases h
        exact built
      · cases h

namespace Makes

/-- Adapting a resource makes an adapter and nothing else. -/
theorem adapt {w w' : World} {factory : Factory} {r : Resource} {interface : String} {a : Adapter}
    (h : w.adapt factory r interface = .ok (w', a)) : Makes w w' := by
  obtain ⟨_, i, _, made⟩ := adapt_eq_ok_iff.1 h
  have makes := newAdapter w factory i r
  rwa [made] at makes

/-- Adapting a resource to an object of the tree makes that object and nothing else. -/
theorem adaptObject {w w' : World} {r : Resource} {target : String} {o : TreeObject}
    (h : w.adaptObject r target = some (w', o)) : Makes w w' := by
  obtain ⟨_, _, eq⟩ := Option.map_eq_some_iff.1 h
  cases eq
  exact of_eq rfl rfl rfl rfl

/-- Turning a resource into a declared type makes what it takes and nothing else. -/
theorem materialize (w : World) (factory : Factory) (r : Resource) (declared : DeclaredType) :
    Makes w (w.materialize factory r declared).1 := by
  unfold World.materialize
  split
  · exact refl w
  · split
    · next given => exact adaptObject given
    · split
      · next built => exact adapt built
      · exact refl w

/-- Taking an element changes the cursor, and then the element may be made. -/
theorem next (w : World) (c : Children) :
    Makes (w.setCursor c.id (w.cursor c.id).take.1) (w.next c).1 := by
  unfold World.next
  dsimp only
  split
  · exact refl _
  · exact refl _
  · exact materialize _ _ _ _

end Makes

/-! ## What a resource becomes -/

/-- A resource as a declared type: the handle itself, the object that the tree gives, else a new
adapter, and else nothing. -/
inductive Materializes (w : World) (factory : Factory) (r : Resource) (declared : DeclaredType) :
    Value → Prop where
  | handle (wanted : declared = .resource) : Materializes w factory r declared (.resource r)
  | object {properties : Properties} (other : declared ≠ .resource)
      (given : (w.tree r.tree).adapt? r.path declared.targetName = some properties) :
      Materializes w factory r declared (.object ⟨w.objects, properties⟩)
  | adapter {i : Interface} (other : declared ≠ .resource)
      (ungiven : (w.tree r.tree).adapt? r.path declared.targetName = none)
      (present : w.holds r = true) (fit : factory.interface declared.targetName = .ok i) :
      Materializes w factory r declared (.adapter ⟨w.adapters.size, i, r⟩)
  | null (other : declared ≠ .resource)
      (ungiven : (w.tree r.tree).adapt? r.path declared.targetName = none)
      (unfit : w.holds r = false ∨ ∃ e, factory.interface declared.targetName = .error e) :
      Materializes w factory r declared .null

/-- What a resource is turned into is what its declared type asks for. -/
theorem materializes_materialize (w : World) (factory : Factory) (r : Resource)
    (declared : DeclaredType) :
    w.Materializes factory r declared (w.materialize factory r declared).2 := by
  unfold World.materialize
  split
  · next wanted => exact .handle wanted
  · next other =>
    unfold adaptObject
    cases given : (w.tree r.tree).adapt? r.path declared.targetName with
    | some properties => exact .object other given
    | none =>
      simp only [Option.map_none]
      cases present : w.holds r with
      | false =>
        rw [adapt_of_missing present]
        exact .null other given (.inl present)
      | true =>
        rw [adapt_of_holds present]
        cases fit : factory.interface declared.targetName with
        | error e => exact .null other given (.inr ⟨e, fit⟩)
        | ok i => exact .adapter other given present fit

end World
end TreeAdapter
