import Mathlib.Data.List.Forall2
import Mathlib.Tactic.ByContra
import TreeAdapter.Proofs.World.Answer
import TreeAdapter.Proofs.World.Run

/-!
# The order of calls

Getters of properties and references are called on one adapter by `invoke`, in any order, while the
trees stay as they are. Each call should come to what it comes to as the first call on an adapter
just built (`OrderFree`). `orderFree_iff` says when it does: unless two getters keep their answers
under one key and disagree (`Clash`).
-/

namespace TreeAdapter
set_option autoImplicit false

/-- A call by name. -/
structure Call where
  method : String
  args : List Value

/-- The getter of a property or a reference that answers a call. -/
def Interface.reading? (i : Interface) (settings : Settings) (c : Call) : Option Method :=
  (i.method? c.method c.args.length).filter fun m => (m.category settings).isReading

/-- The key that the answer of a getter is kept under. -/
def Method.slot? (m : Method) (settings : Settings) : Option String :=
  (m.requiredAddress settings).toOption.map Address.cacheKey

namespace World

/-- Calls to one adapter, one after the other, with their outcomes. -/
def invokeAll (w : World) (a : Adapter) : List Call → Option (World × List Outcome)
  | [] => some (w, [])
  | c :: rest =>
    match w.invoke a c.method c.args with
    | none => none
    | some (w, outcome) => (w.invokeAll a rest).map fun p => (p.1, outcome :: p.2)

/-- What a call comes to on an adapter that was just built. -/
def first (w : World) (f : Factory) (i : Interface) (r : Resource) (c : Call) : Option Outcome :=
  ((w.newAdapter f i r).1.invoke (w.newAdapter f i r).2 c.method c.args).map (·.2)

/-- Whatever is called, in whatever order: each call comes to what it would come to first. -/
def OrderFree (w : World) (f : Factory) (i : Interface) (r : Resource) : Prop :=
  ∀ calls : List Call, (∀ c ∈ calls, (i.reading? f.settings c).isSome = true) →
    ∃ u outcomes, (w.newAdapter f i r).1.invokeAll (w.newAdapter f i r).2 calls = some (u, outcomes) ∧
      List.Forall₂ (fun c o => ∃ p, w.first f i r c = some p ∧ Outcome.Agrees o p) calls outcomes

/-- Two calls are answered by getters that share a key, and the answer of the one is not the
outcome of the other. -/
def Clash (w : World) (f : Factory) (i : Interface) (r : Resource) (c d : Call) : Prop :=
  ∃ m n v, i.reading? f.settings c = some m ∧ i.reading? f.settings d = some n ∧
    m.slot? f.settings = n.slot? f.settings ∧ w.first f i r c = some (.ok v) ∧
    ∀ o, w.first f i r d = some o → ¬Outcome.Agrees o (.ok v)

/-! ## An adapter in use -/

variable {w : World} {f : Factory} {i : Interface} {r : Resource}

/-- A later world in which an adapter is still what it was built as, over the same trees. -/
structure Serves (w : World) (f : Factory) (i : Interface) (r : Resource) (a : Adapter)
    (u : World) : Prop where
  trees : u.trees = w.trees
  made : a.id < u.adapters.size
  factory : u.factoryOf a = f
  interface : a.interface = i
  resource : a.resource = r

theorem serves_newAdapter (w : World) (f : Factory) (i : Interface) (r : Resource) :
    Serves w f i r (w.newAdapter f i r).2 (w.newAdapter f i r).1 where
  trees := rfl
  made := by simp [newAdapter]
  factory := factoryOf_newAdapter w f i r
  interface := rfl
  resource := rfl

/-- An adapter just built has nothing kept. -/
theorem cached_newAdapter (w : World) (f : Factory) (i : Interface) (r : Resource) (key : String) :
    (w.newAdapter f i r).1.cached (w.newAdapter f i r).2 key = none := by
  rw [cached, newAdapter, adapter_push, if_pos rfl]
  rfl

/-- A reading leaves the trees. -/
theorem trees_read (u : World) (a : Adapter) (m : Method) : (u.read a m).1.trees = u.trees := by
  rcases read_cases u a m with same | ⟨address, x, v, _, _, computed, eq⟩
  · rw [same]
  · rw [eq]
    exact (makes_of_computed computed).trees

theorem isAccessor_of_isReading {category : Category} (h : category.isReading = true) :
    category.isAccessor = true := by
  cases category <;> first | rfl | cases h

theorem reading?_eq_some_iff {settings : Settings} {c : Call} {m : Method} :
    i.reading? settings c = some m ↔
      i.method? c.method c.args.length = some m ∧ (m.category settings).isReading = true :=
  Option.filter_eq_some_iff

namespace Serves
variable {a : Adapter} {u : World}

theorem read (h : Serves w f i r a u) (m : Method) : Serves w f i r a (u.read a m).1 where
  trees := (trees_read u a m).trans h.trees
  made := Nat.lt_of_lt_of_le h.made (Step.read u a m).grows.made
  factory := ((Step.read u a m).grows.factory a.id h.made).trans h.factory
  interface := h.interface
  resource := h.resource

theorem getter (h : Serves w f i r a u) {c : Call} {m : Method}
    (reading : i.reading? f.settings c = some m) : Getter u a c.method c.args.length m := by
  obtain ⟨found, reads⟩ := reading?_eq_some_iff.1 reading
  refine ⟨h.made, lookup_of_method? ?_, ?_⟩
  · rw [h.interface]
    exact found
  · rw [h.factory]
    exact isAccessor_of_isReading reads

theorem invoke_eq (h : Serves w f i r a u) {c : Call} {m : Method}
    (reading : i.reading? f.settings c = some m) :
    u.invoke a c.method c.args = some (u.read a m) :=
  (h.getter reading).dispatch_eq rfl 999

end Serves

/-! ## Outcomes of a built adapter -/

/-- What a getter comes to while nothing is kept. -/
def uncached (w : World) (f : Factory) (i : Interface) (r : Resource) (m : Method) : Outcome :=
  ((w.newAdapter f i r).1.read (w.newAdapter f i r).2 m).2

/-- The first outcome of a call is what its getter reads with nothing kept. -/
theorem first_eq {c : Call} {m : Method} (reading : i.reading? f.settings c = some m) :
    w.first f i r c = some (w.uncached f i r m) := by
  rw [first, (serves_newAdapter w f i r).invoke_eq reading]
  rfl

/-- A getter with an address keeps its answer under the key of that address. -/
theorem slot?_eq {m : Method} {settings : Settings} {address : Address}
    (located : m.requiredAddress settings = .ok address) :
    m.slot? settings = some address.cacheKey := by
  rw [Method.slot?, located]
  rfl

/-- With nothing kept, a getter computes its answer at its address. -/
theorem uncached_of_located {c : Call} {m : Method} {address : Address}
    (reading : i.reading? f.settings c = some m)
    (located : m.requiredAddress f.settings = .ok address) :
    w.uncached f i r m =
      ((w.newAdapter f i r).1.computed (w.newAdapter f i r).2 m address).2 := by
  have serves := serves_newAdapter w f i r
  refine (serves.getter reading).read_of_free ?_ (cached_newAdapter w f i r _)
  rw [serves.factory]
  exact located

/-- What is kept was the answer of some getter under its key. -/
def Kept (w : World) (f : Factory) (i : Interface) (r : Resource) (a : Adapter) (u : World) : Prop :=
  ∀ key v, u.cached a key = some v → ∃ c m x, i.reading? f.settings c = some m ∧
    m.slot? f.settings = some key ∧ w.uncached f i r m = .ok x ∧ v.Agrees x

namespace Serves
variable {a : Adapter} {u : World}

/-- On a miss a call comes to what it would come to first. -/
theorem read_of_free (h : Serves w f i r a u) {c : Call} {m : Method} {address : Address}
    (reading : i.reading? f.settings c = some m)
    (located : m.requiredAddress f.settings = .ok address)
    (free : u.cached a address.cacheKey = none) :
    Outcome.Agrees (u.read a m).2 (w.uncached f i r m) := by
  have serves := serves_newAdapter w f i r
  have located' : m.requiredAddress (u.factoryOf a).settings = .ok address := by rwa [h.factory]
  rw [(h.getter reading).read_of_free located' free, uncached_of_located reading located]
  refine computed_agrees address (h.trees.trans serves.trees.symm) ?_ ?_ ?_
  · rw [h.factory, serves.factory]
  · rw [h.resource, serves.resource]
  · rw [serves.factory]
    exact (reading?_eq_some_iff.1 reading).2

/-- One call comes to what it would come to first, and what it keeps is of that kind. -/
theorem step (h : Serves w f i r a u) (noClash : ¬∃ c d, Clash w f i r c d)
    (kept : Kept w f i r a u) {c : Call} {m : Method}
    (reading : i.reading? f.settings c = some m) :
    Outcome.Agrees (u.read a m).2 (w.uncached f i r m) ∧ Kept w f i r a (u.read a m).1 := by
  have getter := h.getter reading
  cases located : m.requiredAddress f.settings with
  | error e =>
    have fails (v : World) (b : Adapter) (serves : Serves w f i r b v) :
        v.read b m = (v, .error e) := by
      rw [read_eq (serves.getter reading).reads, serves.factory, located]
    rw [uncached, fails _ _ (serves_newAdapter w f i r), fails u a h]
    exact ⟨.refl _, kept⟩
  | ok address =>
    have located' : m.requiredAddress (u.factoryOf a).settings = .ok address := by rwa [h.factory]
    cases hit : u.cached a address.cacheKey with
    | some v =>
      rw [getter.read_of_cached located' hit]
      refine ⟨?_, kept⟩
      obtain ⟨d, n, x, other, slot, answer, agrees⟩ := kept _ v hit
      have alike : Outcome.Agrees (w.uncached f i r m) (.ok x) := by
        by_contra apart
        refine noClash ⟨d, c, n, m, x, other, reading, slot.trans (slot?_eq located).symm, ?_, ?_⟩
        · rw [first_eq other, answer]
        · intro o called
          rw [first_eq reading, Option.some.injEq] at called
          rwa [← called]
      exact (Outcome.Agrees.ok agrees).trans alike.symm
    | none =>
      have agrees := h.read_of_free reading located hit
      refine ⟨agrees, fun key v found => ?_⟩
      rcases read_cases u a m with same | ⟨address', x, y, located'', _, computed, eq⟩
      · rw [same] at found
        exact kept key v found
      · rw [eq] at found agrees
        rcases cached_store found with earlier | ⟨_, rfl, rfl⟩
        · rw [(builds_of_computed computed).cached_eq] at earlier
          exact kept key v earlier
        · rw [h.factory] at located''
          -- what is kept was the answer, which agrees with that of a fresh adapter
          cases answer : w.uncached f i r m with
          | error e =>
            rw [answer] at agrees
            cases agrees
          | ok z =>
            rw [answer] at agrees
            cases agrees with
            | ok agrees => exact ⟨c, m, z, reading, slot?_eq located'', answer, agrees⟩

/-- Without a clash, every call of a run comes to what it would come to first. -/
theorem run (h : Serves w f i r a u) (noClash : ¬∃ c d, Clash w f i r c d)
    (kept : Kept w f i r a u) {calls : List Call}
    (readings : ∀ c ∈ calls, (i.reading? f.settings c).isSome = true) :
    ∃ u' outcomes, u.invokeAll a calls = some (u', outcomes) ∧
      List.Forall₂ (fun c o => ∃ p, w.first f i r c = some p ∧ Outcome.Agrees o p) calls outcomes := by
  induction calls generalizing u with
  | nil => exact ⟨u, [], rfl, .nil⟩
  | cons c rest ih =>
    obtain ⟨m, reading⟩ := Option.isSome_iff_exists.1 (readings c List.mem_cons_self)
    obtain ⟨agrees, kept'⟩ := h.step noClash kept reading
    obtain ⟨u', outcomes, called, all⟩ :=
      ih (h.read m) kept' fun d mem => readings d (List.mem_cons_of_mem c mem)
    refine ⟨u', (u.read a m).2 :: outcomes, ?_, .cons ⟨_, first_eq reading, agrees⟩ all⟩
    simp only [invokeAll, h.invoke_eq reading, called, Option.map_some]

end Serves

/-- What a getter has answered is the answer of every getter under its key. -/
theorem read_after_read {c d : Call} {m n : Method} {v : Value}
    (readingC : i.reading? f.settings c = some m) (readingD : i.reading? f.settings d = some n)
    (slots : m.slot? f.settings = n.slot? f.settings) (answer : w.uncached f i r m = .ok v) :
    let built := w.newAdapter f i r
    ((built.1.read built.2 m).1.read built.2 n).2 = .ok v := by
  intro built
  have serves := serves_newAdapter w f i r
  have later := serves.read m
  have whole : built.1.read built.2 m = ((built.1.read built.2 m).1, .ok v) := by
    rw [← answer]
    rfl
  obtain ⟨address, located, hit⟩ := (serves.getter readingC).cached_of_read whole
  rw [serves.factory] at located
  rw [slot?_eq located] at slots
  cases other : n.requiredAddress f.settings with
  | error e => simp [Method.slot?, other, Except.toOption] at slots
  | ok address' =>
    rw [slot?_eq other, Option.some.injEq] at slots
    rw [slots] at hit
    rw [(later.getter readingD).read_of_cached (by rwa [later.factory]) hit]

/-- Calls that clash are not free of order: after the first, the second comes to the answer of the
first. -/
theorem not_clash_of_orderFree (free : OrderFree w f i r) (c d : Call) : ¬Clash w f i r c d := by
  rintro ⟨m, n, v, readingC, readingD, slots, answer, apart⟩
  have serves := serves_newAdapter w f i r
  rw [first_eq readingC, Option.some.injEq] at answer
  obtain ⟨u, outcomes, called, all⟩ := free [c, d] (by simp [readingC, readingD])
  have second := read_after_read readingC readingD slots answer
  simp only [invokeAll, serves.invoke_eq readingC, (serves.read m).invoke_eq readingD,
    Option.map_some, Option.some.injEq, Prod.mk.injEq] at called
  obtain ⟨_, rfl⟩ := called
  cases all with
  | cons _ rest =>
    cases rest with
    | cons last _ =>
      obtain ⟨p, called, agrees⟩ := last
      rw [second] at agrees
      exact apart p called agrees.symm

/-- Without a clash, the order of calls does not matter. -/
theorem orderFree_of_not_clash (noClash : ¬∃ c d, Clash w f i r c d) : OrderFree w f i r := by
  intro calls readings
  refine (serves_newAdapter w f i r).run noClash ?_ readings
  intro key v found
  rw [cached_newAdapter] at found
  cases found

end World
end TreeAdapter
