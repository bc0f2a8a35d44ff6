import TreeAdapter.Proofs.Registry.Inheritance
import TreeAdapter.Proofs.World.Answer
import TreeAdapter.Proofs.World.Collection

/-!
# Identity

Adapters compare by what their interfaces expose and by their paths: `same_identity`, and
`identity_hash` along with it. `BuiltFrom` follows how adapters come from a registry, those that
getters and collections build for other adapters among them, and `BuiltFrom.spec` leads each back to
an interface of the registry. There exposed sets are as good as names, since no two interfaces
extend each other.

* `identity_exact` — adapters of one registry are the same exactly when they were built for one name
  over one path
-/

namespace TreeAdapter
set_option autoImplicit false

namespace World

/-! ## Where adapters come from -/

theorem factoryOf_store (w : World) (a : Adapter) (key : String) (v : Value) (b : Adapter) :
    (w.store a key v).factoryOf b = w.factoryOf b := by
  rw [factoryOf, adapter_store]
  split <;> rfl

theorem size_adapters_store (w : World) (a : Adapter) (key : String) (v : Value) :
    (w.store a key v).adapters.size = w.adapters.size := by
  simp [store]

/-- A getter of a reference that finds nothing kept builds the adapter that it answers. -/
theorem Getter.adapt_of_reference {w w' : World} {b : Adapter} {name : String} {arity : Nat}
    {m : Method} {address : Address} {a : Adapter} (getter : Getter w b name arity m)
    (category : m.category (w.factoryOf b).settings = .referenceGetter)
    (located : m.requiredAddress (w.factoryOf b).settings = .ok address)
    (free : w.cached b address.cacheKey = none)
    (called : w.Calls b name arity w' (.ok (.adapter a))) :
    ∃ u r, w.adapt (w.factoryOf b) r (m.returns.getD .resource).targetName = .ok (u, a) ∧
      w' = u.store b address.cacheKey (.adapter a) := by
  have read := getter.calls_iff.1 called
  rw [read_eq getter.reads, located] at read
  rcases memoized_cases w b address.cacheKey (·.computed b m address) with
    ⟨v, hit, _⟩ | ⟨_, u, v, answered, eq⟩ | ⟨_, u, e, _, eq⟩
  · cases free.symm.trans hit
  · cases eq.symm.trans read
    simp only [computed, category, referenceAnswer] at answered
    split at answered
    · next target _ =>
      obtain ⟨world, value⟩ := Prod.mk.inj answered
      exact ⟨u, target, adapt_of_materialize (Prod.ext world (Except.ok.inj value)), rfl⟩
    · cases answered
  · cases eq.symm.trans read

/-- The adapters of a world that were built from a registry, by any factories over it, with the
names of the interfaces that they were built for. -/
inductive BuiltFrom (R : Registry) : World → Adapter → String → Prop where
  | direct {w w' : World} {f : Factory} {r : Resource} {name : String} {a : Adapter}
      (based : f.registry = R) (built : w.adapt f r name = .ok (w', a)) : BuiltFrom R w' a name
  /-- By a getter of a reference that finds nothing kept. -/
  | reference {w w' : World} {b : Adapter} {target name : String} {arity : Nat} {m : Method}
      {address : Address} {a : Adapter} (parent : BuiltFrom R w b target)
      (getter : Getter w b name arity m)
      (category : m.category (w.factoryOf b).settings = .referenceGetter)
      (located : m.requiredAddress (w.factoryOf b).settings = .ok address)
      (free : w.cached b address.cacheKey = none)
      (called : w.Calls b name arity w' (.ok (.adapter a))) :
      BuiltFrom R w' a (m.returns.getD .resource).targetName
  /-- As an element of a collection that a getter of children has made. -/
  | child {w u v v' : World} {b : Adapter} {target name : String} {arity : Nat} {m : Method}
      {access : ChildrenAccess} {c : Children} {ds : List Deed} {a : Adapter}
      (parent : BuiltFrom R w b target) (getter : ChildrenGetter w b name arity m access)
      (free : w.cached b (Addressing.children m access).cacheKey = none)
      (called : w.Calls b name arity u (.ok (.children c))) (course : Course u ds v)
      (taken : v.next c = (v', some (.adapter a))) : BuiltFrom R v' a access.element.targetName
  | later {w w' : World} {a : Adapter} {name : String} {ds : List Deed}
      (before : BuiltFrom R w a name) (course : Course w ds w') : BuiltFrom R w' a name

namespace BuiltFrom
variable {R : Registry} {w : World} {a : Adapter} {name : String}

/-- It has a factory over the registry, and its interface is the one under the name. -/
theorem spec (h : BuiltFrom R w a name) :
    a.id < w.adapters.size ∧ (w.factoryOf a).registry = R ∧ R.get? name = some a.interface := by
  induction h with
  | direct based built =>
    obtain ⟨made, factory, found, _⟩ := built_of_adapt built
    rw [based] at found
    exact ⟨made, by rw [factory, based], found⟩
  | @reference w w' b target name arity m address a parent getter category located free called ih =>
    -- what an adapter builds gets the factory of that adapter
    obtain ⟨-, based, -⟩ := ih
    obtain ⟨u, r, built, rfl⟩ := getter.adapt_of_reference category located free called
    obtain ⟨made, factory, found, _⟩ := built_of_adapt built
    rw [based] at found
    refine ⟨?_, ?_, found⟩
    · rwa [size_adapters_store]
    · rw [factoryOf_store, factory, based]
  | @child w u v v' b target name arity m access c ds a parent getter free called course taken ih =>
    obtain ⟨-, based, -⟩ := ih
    obtain ⟨u₀, c₀, element, calls, -, pending⟩ := getter.exists_made free
    obtain ⟨rfl, same⟩ := (calls u _).1 called
    cases same
    obtain ⟨x, r, built⟩ := (pending.course course).adapt_of_next taken
    obtain ⟨made, factory, found, _⟩ := built_of_adapt built
    rw [based, element] at found
    exact ⟨made, by rw [factory, based], found⟩
  | @later w w' a name ds before course ih =>
    obtain ⟨made, based, found⟩ := ih
    have factory : w'.factoryOf a = w.factoryOf a := course.run.grows.factory a.id made
    exact ⟨Nat.lt_of_lt_of_le made course.run.grows.made, by rw [factory, based], found⟩

end BuiltFrom

/-! ## Identity methods -/

/-- A name of an identity method leads to that method unless metadata is attached to it. -/
theorem exists_lookup_of_identity {a : Adapter} {name : String} {arity : Nat}
    {identity : IdentityMethod} (named : IdentityMethod.ofName? name = some identity)
    (plain : ∀ m, a.interface.method? name arity = some m → m.accessor = none)
    (settings : Settings) :
    ∃ m, lookup a settings name arity = .ok m ∧ m.category settings = .identity identity := by
  unfold lookup
  cases found : a.interface.method? name arity with
  | some m =>
    have bare : m.accessor = none := plain m found
    rw [Interface.method?] at found
    have answers := List.find?_some found
    rw [Method.answers, Bool.and_eq_true, beq_iff_eq] at answers
    refine ⟨m, rfl, ?_⟩
    simp [Method.category, bare, answers.1, named]
  | none =>
    refine ⟨implicitMethod a name arity, ?_, ?_⟩
    · simp [isImplicit, named]
    · simp [Method.category, implicitMethod, named]

theorem dispatch_equals {a : Adapter} (plain : ∀ m, a.interface.method? "equals" 1 = some m →
    m.accessor = none) (depth : Nat) (w : World) (v : Value) :
    dispatch (depth + 1) w a "equals" [v] = some (w, equalsAnswer a [v]) := by
  have named : IdentityMethod.ofName? "equals" = some .equals := rfl
  obtain ⟨m, found, category⟩ := exists_lookup_of_identity named plain (w.factoryOf a).settings
  rw [dispatch]
  simp only [List.length_singleton, found, category]

theorem dispatch_hashCode {a : Adapter} {args : List Value}
    (plain : ∀ m, a.interface.method? "hashCode" args.length = some m → m.accessor = none)
    (depth : Nat) (w : World) :
    dispatch (depth + 1) w a "hashCode" args = some (w, .ok (.long a.hash)) := by
  have named : IdentityMethod.ofName? "hashCode" = some .hashCode := rfl
  obtain ⟨m, found, category⟩ := exists_lookup_of_identity named plain (w.factoryOf a).settings
  rw [dispatch]
  simp only [found, category]

theorem equalsAnswer_single (a : Adapter) (v : Value) :
    ∃ same, equalsAnswer a [v] = .ok (.bool same) ∧
      (same = true ↔ ∃ b, v = .adapter b ∧ a.sameIdentity b = true) := by
  cases v with
  | adapter b => exact ⟨a.sameIdentity b, rfl, by simp⟩
  | _ => exact ⟨false, rfl, by simp⟩

theorem sameIdentity_equivalence :
    Equivalence fun a b : Adapter => a.sameIdentity b = true := by
  constructor
  case refl =>
    intro a
    exact Adapter.sameIdentity_iff.2 ⟨rfl, rfl⟩
  case symm =>
    intro a b same
    obtain ⟨exposed, path⟩ := Adapter.sameIdentity_iff.1 same
    exact Adapter.sameIdentity_iff.2 ⟨exposed.symm, path.symm⟩
  case trans =>
    intro a b c first second
    obtain ⟨exposed, path⟩ := Adapter.sameIdentity_iff.1 first
    obtain ⟨exposed', path'⟩ := Adapter.sameIdentity_iff.1 second
    exact Adapter.sameIdentity_iff.2 ⟨exposed.trans exposed', path.trans path'⟩

theorem hash_eq_of_sameIdentity {a b : Adapter} (same : a.sameIdentity b = true) :
    a.hash = b.hash := by
  obtain ⟨exposed, path⟩ := Adapter.sameIdentity_iff.1 same
  rw [Adapter.hash, exposed, path, Adapter.hash]

/-- Of a registry that was made from lists or by registering: interfaces that expose the same names
have one name; and adapters built from it, in whatever worlds and however nested, are the same
exactly when they were built for one name over one path. Sameness is an equivalence between any
adapters, which the hash respects, and it is what the methods answer that compare and hash, unless
metadata is attached to their names. -/
theorem identity_exact {R : Registry} (made : R.Made) :
    (∀ n k i j, R.get? n = some i → R.get? k = some j → i.exposed = j.exposed → n = k) ∧
    (∀ w w' a b n k, BuiltFrom R w a n → BuiltFrom R w' b k →
      (a.sameIdentity b = true ↔ n = k ∧ a.resource.path = b.resource.path)) ∧
    (Equivalence fun a b : Adapter => a.sameIdentity b = true) ∧
    (∀ a b : Adapter, a.sameIdentity b = true → a.hash = b.hash) ∧
    ∀ depth w (a : Adapter),
      ((∀ m, a.interface.method? "equals" 1 = some m → m.accessor = none) → ∀ v,
        ∃ same, dispatch (depth + 1) w a "equals" [v] = some (w, .ok (.bool same)) ∧
          (same = true ↔ ∃ b, v = .adapter b ∧ a.sameIdentity b = true)) ∧
      ∀ args : List Value,
        (∀ m, a.interface.method? "hashCode" args.length = some m → m.accessor = none) →
        dispatch (depth + 1) w a "hashCode" args = some (w, .ok (.long a.hash)) := by
  obtain ⟨ds, held⟩ := made.exists_holds
  refine ⟨?_, ?_, sameIdentity_equivalence, fun a b => hash_eq_of_sameIdentity, ?_⟩
  · intro n k i j foundI foundJ same
    exact held.name_eq_of_exposed_eq foundI foundJ same
  · intro w w' a b n k builtA builtB
    obtain ⟨-, -, foundA⟩ := builtA.spec
    obtain ⟨-, -, foundB⟩ := builtB.spec
    rw [Adapter.sameIdentity_iff]
    constructor
    · rintro ⟨exposed, path⟩
      exact ⟨held.name_eq_of_exposed_eq foundA foundB exposed, path⟩
    · rintro ⟨rfl, path⟩
      have same : a.interface = b.interface := Option.some.inj (foundA.symm.trans foundB)
      exact ⟨by rw [same], path⟩
  · intro depth w a
    refine ⟨?_, fun args plain => dispatch_hashCode plain depth w⟩
    intro plain v
    obtain ⟨same, answer, iff⟩ := equalsAnswer_single a v
    exact ⟨same, by rw [dispatch_equals plain, answer], iff⟩

/-- A page and what it extends, over one resource, are different adapters. -/
theorem identity_exact_extended :
    ∃ R w u a b, Registry.Made R ∧ BuiltFrom R w a "Titled" ∧ BuiltFrom R u b "Page" ∧
      a.resource = b.resource ∧ a.sameIdentity b = false := by
  let titled : Declaration := ⟨"Titled", [], [⟨"getTitle", [], some .string, none, ""⟩], []⟩
  let page : Declaration := ⟨"Page", ["Titled"], [], []⟩
  let root : Resource := ⟨0, Path.root⟩
  have runs : ((Registry.ofDeclarations [page, titled]).toOption.bind fun R =>
      ((ofTrees [Tree.empty]).adapt { (default : Factory) with registry := R } root
        "Titled").toOption.bind fun p =>
      (p.1.adapt { (default : Factory) with registry := R } root "Page").toOption.map fun q =>
        decide (p.2.resource = q.2.resource)) = some true := by
    decide +kernel
  obtain ⟨R, run, runs⟩ := Option.bind_eq_some_iff.1 runs
  obtain ⟨⟨w, a⟩, builtA, runs⟩ := Option.bind_eq_some_iff.1 runs
  obtain ⟨⟨u, b⟩, builtB, same⟩ := Option.map_eq_some_iff.1 runs
  have made : R.Made := .ofDeclarations (toOption_eq_some.1 run)
  have fromA : BuiltFrom R w a "Titled" := .direct rfl (toOption_eq_some.1 builtA)
  have fromB : BuiltFrom R u b "Page" := .direct rfl (toOption_eq_some.1 builtB)
  have exact := (identity_exact made).2.1 w u a b _ _ fromA fromB
  refine ⟨R, w, u, a, b, made, fromA, fromB, of_decide_eq_true same, ?_⟩
  rw [Bool.eq_false_iff]
  intro equal
  exact absurd (exact.1 equal).1 (by decide)

end World
end TreeAdapter
