import TreeAdapter.Proofs.Registry.Inheritance
import TreeAdapter.Proofs.World.Course

/-!
# What runs keep

Each step lets the world grow and each call of `invoke` is a run however its services call back, so
what growth keeps is kept over every interleaving.

* `cache_write_once` — answers of getters are kept for good, failures are not kept, and nothing that
  a cache holds is overwritten or dropped
-/

namespace TreeAdapter.World
set_option autoImplicit false

/-! ## Where entries come from -/

/-- On the way from `w` to `w'` a getter answered `v`, which was kept under `key`. -/
def Answered (w w' : World) (a : Adapter) (key : String) (v : Value) : Prop :=
  ∃ b m address u u', b.id = a.id ∧ m.requiredAddress (u.factoryOf b).settings = .ok address ∧
    address.cacheKey = key ∧ Run w u ∧ u.read b m = (u', .ok v) ∧ Run u' w'

theorem cached_store {w : World} {a b : Adapter} {key k : String} {u v : Value}
    (h : (w.store a key u).cached b k = some v) :
    w.cached b k = some v ∨ (a.id = b.id ∧ key = k ∧ u = v) := by
  rw [cached, adapter_store] at h
  split at h
  · next same =>
    by_cases here : key = k
    · subst here
      simp only [List.find?_cons, beq_self_eq_true, Option.map_some, Option.some.injEq] at h
      exact .inr ⟨same.1, rfl, h⟩
    · rw [List.find?_cons_of_neg (by simpa using here)] at h
      exact .inl h
  · exact .inl h

/-- An entry was there before, or a getter has answered it since. -/
theorem Run.answered {w w' : World} (run : Run w w') {a : Adapter} {key : String} {v : Value}
    (found : w'.cached a key = some v) : w.cached a key = some v ∨ Answered w w' a key v := by
  induction run with
  | refl => exact .inl found
  | @tail middle last before step ih =>
    have kept (h : middle.cached a key = some v) :
        w.cached a key = some v ∨ Answered w last a key v := by
      refine (ih h).imp_right ?_
      rintro ⟨b, m, address, u, u', same, located, eq, first, read, rest⟩
      exact ⟨b, m, address, u, u', same, located, eq, first, read, rest.tail step⟩
    rcases step.builds_or_read with builds | ⟨b, m, rfl⟩
    · rw [builds.cached_eq] at found
      exact kept found
    · rcases read_cases middle b m with unchanged | ⟨address, u, x, located, _, computed, read⟩
      · rw [unchanged] at found
        exact kept found
      · have stored : (u.store b address.cacheKey x).cached a key = some v := by
          rw [read] at found
          exact found
        rcases cached_store stored with earlier | ⟨same, eq, rfl⟩
        · rw [(builds_of_computed computed).cached_eq] at earlier
          exact kept earlier
        · rw [read]
          exact .inr ⟨b, m, address, middle, _, same, located, eq, before, read, .refl⟩

/-! ## Getters over runs -/

theorem lookup_of_method? {a : Adapter} {settings : Settings} {name : String} {arity : Nat}
    {m : Method} (h : a.interface.method? name arity = some m) :
    lookup a settings name arity = .ok m := by
  rw [lookup, h]

/-- A method that an interface of a registry has answers the calls of its name and arity. -/
theorem lookup_of_mem {R : Registry} (made : R.Made) {a : Adapter} {name : String}
    (registered : R.get? name = some a.interface) {m : Method} (mem : m ∈ a.interface.methods)
    (settings : Settings) : lookup a settings m.name m.arity = .ok m := by
  obtain ⟨ds, held⟩ := made.exists_holds
  exact lookup_of_method? (held.method?_of_mem registered mem)

/-- Calls of a name with so many arguments are answered by a getter. -/
structure Getter (w : World) (a : Adapter) (name : String) (arity : Nat) (m : Method) : Prop where
  made : a.id < w.adapters.size
  found : lookup a (w.factoryOf a).settings name arity = .ok m
  reads : (m.category (w.factoryOf a).settings).isAccessor = true

/-- A call with so many arguments, however deep it may nest, that comes to an end. -/
def Calls (w : World) (a : Adapter) (name : String) (arity : Nat) (w' : World) (outcome : Outcome) :
    Prop :=
  ∃ depth args, args.length = arity ∧ dispatch depth w a name args = some (w', outcome)

namespace Getter
variable {w w' : World} {a : Adapter} {name : String} {arity : Nat} {m : Method}

theorem factoryOf_of_run (h : Getter w a name arity m) (run : Run w w') :
    w'.factoryOf a = w.factoryOf a :=
  run.grows.factory a.id h.made

/-- A method stays the getter that it is: neither the adapter nor its factory changes. -/
theorem of_run (h : Getter w a name arity m) (run : Run w w') : Getter w' a name arity m := by
  refine ⟨Nat.lt_of_lt_of_le h.made run.grows.made, ?_, ?_⟩
  · rw [h.factoryOf_of_run run]
    exact h.found
  · rw [h.factoryOf_of_run run]
    exact h.reads

theorem dispatch_eq (h : Getter w a name arity m) {args : List Value} (length : args.length = arity)
    (depth : Nat) : dispatch (depth + 1) w a name args = some (w.read a m) := by
  have found := h.found
  have reads := h.reads
  rw [← length] at found
  rw [dispatch]
  simp only [found]
  cases category : m.category (w.factoryOf a).settings with
  | propertyGetter => rfl
  | referenceGetter => rfl
  | childrenGetter => rfl
  | _ => simp [category, Category.isAccessor] at reads

theorem calls_iff (h : Getter w a name arity m) {outcome : Outcome} :
    w.Calls a name arity w' outcome ↔ w.read a m = (w', outcome) := by
  constructor
  · rintro ⟨depth, args, length, called⟩
    cases depth with
    | zero => cases called
    | succ depth =>
      rw [h.dispatch_eq length] at called
      exact Option.some.inj called
  · intro read
    refine ⟨1, List.replicate arity .null, List.length_replicate, ?_⟩
    rw [h.dispatch_eq List.length_replicate, read]

/-- An answer is kept. -/
theorem cached_of_read (h : Getter w a name arity m) {v : Value}
    (read : w.read a m = (w', .ok v)) :
    ∃ address, m.requiredAddress (w.factoryOf a).settings = .ok address ∧
      w'.cached a address.cacheKey = some v := by
  rw [read_eq h.reads] at read
  cases located : m.requiredAddress (w.factoryOf a).settings with
  | error e =>
    rw [located] at read
    cases read
  | ok address =>
    rw [located] at read
    refine ⟨address, rfl, ?_⟩
    rcases memoized_cases w a address.cacheKey (·.computed a m address) with
      ⟨u, hit, eq⟩ | ⟨_, u, x, computed, eq⟩ | ⟨_, u, e, _, eq⟩
    · cases eq.symm.trans read
      exact hit
    · cases eq.symm.trans read
      have builds := builds_of_computed computed
      have made : a.id < u.adapters.size := Nat.lt_of_lt_of_le h.made builds.made
      exact cached_store_self made _ _
    · cases eq.symm.trans read

/-- What is kept is answered, and nothing changes. -/
theorem read_of_cached (h : Getter w a name arity m) {address : Address} {v : Value}
    (located : m.requiredAddress (w.factoryOf a).settings = .ok address)
    (hit : w.cached a address.cacheKey = some v) : w.read a m = (w, .ok v) := by
  rw [read_eq h.reads, located]
  simp only [memoized, hit]

/-- Without an entry the answer comes from the trees as they are. -/
theorem read_of_free (h : Getter w a name arity m) {address : Address}
    (located : m.requiredAddress (w.factoryOf a).settings = .ok address)
    (free : w.cached a address.cacheKey = none) :
    (w.read a m).2 = (w.computed a m address).2 := by
  rw [read_eq h.reads, located]
  simp only [memoized, free]
  split <;> next computed => rw [computed]

/-- A failing call changes nothing, and has found no entry. -/
theorem of_read_error (h : Getter w a name arity m) {e : AdapterError}
    (read : w.read a m = (w', .error e)) :
    w' = w ∧ ∀ address, m.requiredAddress (w.factoryOf a).settings = .ok address →
      w.cached a address.cacheKey = none := by
  constructor
  · rcases read_cases w a m with same | ⟨_, _, _, _, _, _, eq⟩
    · rw [read] at same
      exact same
    · cases read.symm.trans eq
  · intro address located
    cases hit : w.cached a address.cacheKey with
    | none => rfl
    | some v =>
      rw [h.read_of_cached located hit] at read
      cases read

end Getter

/-- The answers of the getter that answers calls of a name and a number of arguments. Every call,
of whatever method, is a run, and over every run from here: caches only gain entries, each of
them the answer of a getter; once the getter has answered, it gives the same answer and changes
nothing; and when it fails nothing is kept, so that it looks at the trees again unless another
getter has answered under its key. -/
theorem cache_write_once {w : World} {a : Adapter} {name : String} {arity : Nat} {m : Method}
    (getter : Getter w a name arity m) :
    (∀ depth u b method args u' outcome,
      dispatch depth u b method args = some (u', outcome) → Run u u') ∧
    (∀ w', Run w w' → (w.adapter a.id).cache <:+ (w'.adapter a.id).cache ∧
      (∀ key v, w.cached a key = some v → w'.cached a key = some v) ∧
      ∀ key v, w'.cached a key = some v → w.cached a key = some v ∨ Answered w w' a key v) ∧
    (∀ u v, w.Calls a name arity u (.ok v) → ∀ w', Run u w' → ∀ u' outcome,
      w'.Calls a name arity u' outcome ↔ u' = w' ∧ outcome = .ok v) ∧
    (∀ u e, w.Calls a name arity u (.error e) → u = w ∧
      ∀ address, m.requiredAddress (w.factoryOf a).settings = .ok address →
        w.cached a address.cacheKey = none ∧
        ∀ w', Run w w' → ∀ u' outcome, w'.Calls a name arity u' outcome →
          outcome = (w'.computed a m address).2 ∨
          ∃ v, outcome = .ok v ∧ Answered w w' a address.cacheKey v) := by
  refine ⟨?_, ?_, ?_, ?_⟩
  · intro depth u b method args u' outcome called
    exact run_of_dispatch called
  · intro w' run
    exact ⟨run.grows.entries a.id, run.grows.answers a, fun key v => run.answered⟩
  · intro u v called w' run u' outcome
    have read : w.read a m = (u, .ok v) := getter.calls_iff.1 called
    have whole : Run w w' := (run_of_read read).trans run
    have later : Getter w' a name arity m := getter.of_run whole
    obtain ⟨address, located, hit⟩ := getter.cached_of_read read
    have located' : m.requiredAddress (w'.factoryOf a).settings = .ok address := by
      rw [getter.factoryOf_of_run whole]
      exact located
    have hit' : w'.cached a address.cacheKey = some v := run.grows.answers a _ v hit
    rw [later.calls_iff, later.read_of_cached located' hit', Prod.mk.injEq]
    exact ⟨fun h => ⟨h.1.symm, h.2.symm⟩, fun h => ⟨h.1.symm, h.2.symm⟩⟩
  · intro u e failed
    obtain ⟨same, free⟩ := getter.of_read_error (getter.calls_iff.1 failed)
    refine ⟨same, ?_⟩
    intro address located
    refine ⟨free address located, ?_⟩
    intro w' run u' outcome called
    have later : Getter w' a name arity m := getter.of_run run
    have read : w'.read a m = (u', outcome) := later.calls_iff.1 called
    have located' : m.requiredAddress (w'.factoryOf a).settings = .ok address := by
      rw [getter.factoryOf_of_run run]
      exact located
    cases hit : w'.cached a address.cacheKey with
    | none =>
      left
      rw [← later.read_of_free located' hit, read]
    | some v =>
      right
      have absent : w.cached a address.cacheKey ≠ some v := by
        rw [free address located]
        intro eq
        cases eq
      rw [later.read_of_cached located' hit, Prod.mk.injEq] at read
      exact ⟨v, read.2.symm, (run.answered hit).resolve_left absent⟩

/-- A title that is absent at the first call stays absent, whatever the tree becomes. -/
theorem cache_write_once_absent :
    let title : Method := ⟨"getTitle", [], some .string, none, "Page"⟩
    let page := Interface.ofDeclaration ⟨"Page", [], [title], []⟩ []
    let made := (ofTrees [Tree.empty]).newAdapter default page ⟨0, Path.root⟩
    made.1.Getter made.2 "getTitle" 0 title ∧ ∃ u v, made.1.Calls made.2 "getTitle" 0 u (.ok v) ∧
      v.isNull = true ∧ ∀ t u' outcome, (u.setTree 0 t).Calls made.2 "getTitle" 0 u' outcome ↔
        u' = u.setTree 0 t ∧ outcome = .ok v := by
  intro title page made
  have getter : made.1.Getter made.2 "getTitle" 0 title :=
    ⟨by decide, lookup_of_method? (by decide +kernel), by decide +kernel⟩
  have null : (made.1.read made.2 title).2.toOption.map Value.isNull = some true := by
    decide +kernel
  refine ⟨getter, ?_⟩
  cases answer : (made.1.read made.2 title).2 with
  | error e =>
    rw [answer] at null
    cases null
  | ok v =>
    rw [answer] at null
    have called : made.1.Calls made.2 "getTitle" 0 (made.1.read made.2 title).1 (.ok v) :=
      getter.calls_iff.2 (by rw [← answer])
    refine ⟨_, v, called, Option.some.inj null, fun t => ?_⟩
    exact (cache_write_once getter).2.2.1 _ v called _ (.single (.tree _ 0 t))

end TreeAdapter.World
