import TreeAdapter.Proofs.Value.Cast
import TreeAdapter.Proofs.World.Step
import TreeAdapter.World.Liveness

/-!
# Handles to adapters

Which adapters a value holds on to, and where they come from. `Gives` says what can be made for one
answer, `Reads` what a reading does: it gives nothing to hold on to, or what the cache has, or what
it makes and keeps. A service is discreet when it uses no adapters but those that it is called with
and those that its own calls answer.
-/

namespace TreeAdapter
set_option autoImplicit false

/-- The adapters that values hold on to. -/
def handles (values : List Value) : List Nat :=
  values.flatMap Value.heldAdapters

theorem handles_append (values others : List Value) :
    handles (values ++ others) = handles values ++ handles others :=
  List.flatMap_append

/-- The value that a call answers, if it answers one. -/
def Outcome.values : Outcome → List Value
  | .ok v => [v]
  | .error _ => []

theorem Value.heldInAll_eq_nil {items : List Value} (h : ∀ item ∈ items, item.heldAdapters = []) :
    heldAdapters.heldInAll items = [] := by
  induction items with
  | nil => rfl
  | cons item rest ih =>
    obtain ⟨first, others⟩ := List.forall_mem_cons.1 h
    rw [heldAdapters.heldInAll, first, ih others]
    rfl

/-- No cast makes an adapter. -/
theorem heldAdapters_of_cast {raw : Option StoredValue} {declared : DeclaredType} {v : Value}
    (done : cast raw declared = .ok v) : v.heldAdapters = [] := by
  cases raw with
  | none =>
    cases done
    rfl
  | some raw =>
    cases nested : declared.isArray with
    | false =>
      have scalar := (Cast.scalar_sound ((cast_eq_ok_iff nested).1 done)).1
      exact Value.heldAdapters_of_isScalar scalar
    | true =>
      cases declared with
      | array element =>
        obtain ⟨single, items, rfl, each⟩ := cast_array_eq_ok_iff.1 done
        refine Value.heldInAll_eq_nil fun item mem => ?_
        exact Value.heldAdapters_of_isScalar (Cast.items_sound single each item mem).1
      | _ => cases nested

/-! ## Discretion -/

/-- The script uses only known adapters, and those that the calls it makes answer. -/
def Script.StaysWithin : Script → List Nat → Prop
  | .answer outcome, known => handles outcome.values ⊆ known
  | .invoke a _ args next, known =>
    a.id ∈ known ∧ handles args ⊆ known ∧
      ∀ outcome : Outcome, (next outcome).StaysWithin (handles outcome.values ++ known)

/-- The service keeps no adapter: at each call it has the one that it serves and the arguments. -/
def Service.Discreet (s : Service) : Prop :=
  ∀ call, (s.respond call).StaysWithin (call.adapter.id :: handles call.args)

def Factory.Discreet (f : Factory) : Prop :=
  ∀ search b s, f.services.resolve search b = .ok s → s.Discreet

/-- Without a locator only the implementations are found. -/
theorem ServiceDirectory.exists_get?_of_resolve {β : Type} {d : ServiceDirectory β}
    (alone : d.locator = none) {search : Nat} {b : ServiceBinding} {s : β}
    (found : d.resolve search b = .ok s) : ∃ name, d.implementations.get? name = some s := by
  have located : d.locate search b = .ok none := by
    rw [locate, alone]
  unfold resolve at found
  dsimp only at found
  split at found
  · cases found
  · obtain ⟨o, eq, later⟩ := bind_eq_ok.1 found
    cases located.symm.trans eq
    dsimp only at later
    split at later
    · next named =>
      cases later
      obtain ⟨name, _, has⟩ := Option.bind_eq_some_iff.1 named
      exact ⟨name, has⟩
    · cases later

/-- The factory without services is discreet. -/
theorem Factory.discreet_default : (default : Factory).Discreet := by
  intro search b s found
  obtain ⟨name, has⟩ := ServiceDirectory.exists_get?_of_resolve rfl found
  cases has

/-- Taking an entry leaves the factory of a cursor. -/
theorem Cursor.factory_take (c : Cursor) : c.take.1.factory = c.factory := by
  unfold take
  split <;> rfl

namespace World

/-- Whatever services there are or can come to be are discreet. -/
structure Discreet (w : World) : Prop where
  adapters : ∀ id, (w.adapter id).factory.Discreet
  cursors : ∀ id, (w.cursor id).factory.Discreet
  services : ∀ (id : Nat) (s : ServiceState), w.services[id]? = some s → s.service.Discreet

/-- A world of trees is discreet: it has no services yet. -/
theorem discreet_ofTrees (trees : List Tree) : (ofTrees trees).Discreet where
  adapters := fun _ => Factory.discreet_default
  cursors := fun _ => Factory.discreet_default
  services := by simp [ofTrees]

/-! ## What can be made for an answer -/

/-- At most one thing is made, from the factory, and handed out. -/
inductive Gives (w : World) (factory : Factory) : World → Value → Prop where
  | plain {x : World} {v : Value} (free : v.heldAdapters = []) (adapters : x.adapters = w.adapters)
      (cursors : x.cursors = w.cursors) (services : x.services = w.services) : Gives w factory x v
  | children (element : DeclaredType) (resources : List (Option Resource)) :
      Gives w factory (w.newChildren factory element resources).1
        (.children (w.newChildren factory element resources).2)
  | adapter (i : Interface) (r : Resource) :
      Gives w factory (w.newAdapter factory i r).1 (.adapter (w.newAdapter factory i r).2)

namespace Gives
variable {w x : World} {factory : Factory} {v : Value}

theorem builds (h : Gives w factory x v) : Builds w x := by
  cases h with
  | plain _ adapters _ _ => exact .of_adapters_eq adapters
  | children element resources => exact .of_adapters_eq rfl
  | adapter i r => exact .of_makes (.newAdapter w factory i r)

/-- An adapter that is handed out was not there before. -/
theorem fresh (h : Gives w factory x v) : v.heldAdapters = [] ∨
    (v.heldAdapters = [w.adapters.size] ∧ x.adapters.size = w.adapters.size + 1) := by
  cases h with
  | plain free _ _ _ => exact .inl free
  | children element resources => exact .inl rfl
  | adapter i r => exact .inr ⟨rfl, Array.size_push _⟩

/-- Giving a value keeps a world discreet. -/
theorem discreet (h : Gives w factory x v) (before : w.Discreet) (from_ : factory.Discreet) :
    x.Discreet := by
  cases h with
  | plain _ adapters cursors services =>
    refine ⟨?_, ?_, ?_⟩
    · intro id
      rw [adapter_congr adapters]
      exact before.adapters id
    · intro id
      rw [cursor_congr cursors]
      exact before.cursors id
    · rw [services]
      exact before.services
  | children element resources =>
    refine ⟨before.adapters, ?_, before.services⟩
    intro id
    rw [newChildren, cursor_push]
    split
    · exact from_
    · exact before.cursors id
  | adapter i r =>
    refine ⟨?_, before.cursors, before.services⟩
    intro id
    rw [newAdapter, adapter_push]
    split
    · exact from_
    · exact before.adapters id

theorem of_adapt {r : Resource} {interface : String} {a : Adapter}
    (built : w.adapt factory r interface = .ok (x, a)) : Gives w factory x (.adapter a) := by
  obtain ⟨_, i, _, made⟩ := adapt_eq_ok_iff.1 built
  obtain ⟨rfl, rfl⟩ := Prod.mk.inj made
  exact .adapter i r

/-- Adapting to an object of the tree gives that object, which holds no adapter. -/
theorem of_adaptObject {r : Resource} {target : String} {o : TreeObject}
    (given : w.adaptObject r target = some (x, o)) : Gives w factory x (.object o) := by
  obtain ⟨_, _, eq⟩ := Option.map_eq_some_iff.1 given
  cases eq
  exact .plain rfl rfl rfl rfl

/-- What a resource is turned into is given: a new adapter, or nothing to hold on to. -/
theorem materialize (w : World) (factory : Factory) (r : Resource) (declared : DeclaredType) :
    Gives w factory (w.materialize factory r declared).1 (w.materialize factory r declared).2 := by
  unfold World.materialize
  split
  · exact .plain rfl rfl rfl rfl
  · split
    · next given => exact of_adaptObject given
    · split
      · next built => exact of_adapt built
      · exact .plain rfl rfl rfl rfl

/-- The answer of a getter is given to it: a new adapter at most, and no other. -/
theorem of_computed {a : Adapter} {m : Method} {address : Address}
    (computed : w.computed a m address = (x, .ok v)) : Gives w (w.factoryOf a) x v := by
  unfold World.computed at computed
  split at computed
  · obtain ⟨rfl, answer⟩ := Prod.mk.inj computed
    refine .plain ?_ rfl rfl rfl
    unfold propertyAnswer at answer
    dsimp only at answer
    split at answer
    · next done =>
      cases answer
      exact heldAdapters_of_cast done
    · cases answer
  · cases computed
    split
    · exact materialize w _ _ _
    · exact .plain rfl rfl rfl rfl
  · cases computed
    exact .children _ _
  · cases computed

/-- An element is made when it is delivered. -/
theorem of_next {c : Children} (taken : w.next c = (x, some v)) :
    Gives (w.setCursor c.id (w.cursor c.id).take.1) (w.cursor c.id).factory x v := by
  unfold World.next at taken
  dsimp only at taken
  split at taken
  · cases taken
  · cases taken
    exact .plain rfl rfl rfl rfl
  · cases taken
    rw [← Cursor.factory_take]
    exact materialize _ _ _ _

end Gives

/-- A collection that delivers nothing has only moved its cursor. -/
theorem eq_of_next_none {w u : World} {c : Children} (taken : w.next c = (u, none)) :
    u = w.setCursor c.id (w.cursor c.id).take.1 := by
  unfold World.next at taken
  dsimp only at taken
  split at taken <;> cases taken
  rfl

/-! ## Readings -/

/-- What a reading does: it changes nothing and gives nothing to hold on to, it gives what is kept
under a key, or it makes an answer and keeps it. -/
inductive Reads (w : World) (a : Adapter) : World → Outcome → Prop where
  | quiet {outcome : Outcome} (free : handles outcome.values = []) : Reads w a w outcome
  | hit {key : String} {v : Value} (kept : w.cached a key = some v) : Reads w a w (.ok v)
  | stored {key : String} {x : World} {v : Value} (gives : Gives w (w.factoryOf a) x v) :
      Reads w a (x.store a key v) (.ok v)

/-- A memoized answer is one that was kept, or is made and kept, or is an error. -/
theorem reads_memoized (w : World) (a : Adapter) (m : Method) (address : Address) (key : String) :
    Reads w a (w.memoized a key (·.computed a m address)).1
      (w.memoized a key (·.computed a m address)).2 := by
  rcases memoized_cases w a key (·.computed a m address) with
    ⟨v, kept, eq⟩ | ⟨_, x, v, computed, eq⟩ | ⟨_, x, e, computed, eq⟩
  · rw [eq]
    exact .hit kept
  · rw [eq]
    exact .stored (.of_computed computed)
  · rw [eq, computed_error computed]
    exact .quiet rfl

/-- Every reading by a getter is of that kind. -/
theorem reads_read (w : World) (a : Adapter) (m : Method) :
    Reads w a (w.read a m).1 (w.read a m).2 := by
  cases getter : (m.category (w.factoryOf a).settings).isAccessor with
  | true =>
    rw [read_eq getter]
    cases m.requiredAddress (w.factoryOf a).settings with
    | error e => exact .quiet rfl
    | ok address => exact reads_memoized w a m address _
  | false =>
    rcases read_of_not_getter getter with eq | ⟨e, eq⟩
    · rw [eq]
      exact .quiet rfl
    · rw [eq]
      exact .quiet rfl

end World
end TreeAdapter
