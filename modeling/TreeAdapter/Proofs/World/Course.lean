import TreeAdapter.Proofs.World.Step

/-!
# Courses of deeds

A course is a run that keeps a record: of each step it says what the step did to child collections
and to services, its deed. Every call of `invoke` is a course whose record begins as `Begins` says
and has no iteration in it (`course_of_dispatch`), so what is shown of records holds however calls,
iteration and changes of trees are interleaved and however deep services call back.
-/

namespace TreeAdapter
set_option autoImplicit false

/-- What a step does to collections and services, which are named by their numbers. -/
inductive Deed where
  /-- Neither a collection nor a service takes part. -/
  | quiet
  /-- A collection is asked whether it has an element left. -/
  | looks (collection : Nat)
  /-- The next element of a collection is taken. -/
  | takes (collection : Nat)
  /-- No service is found for an interface that an adapter is to forward a call for. -/
  | misses (adapter : Nat) (interface : String)
  /-- A call is forwarded to a service, which was built for it or not. -/
  | forwards (adapter : Nat) (interface : String) (built : Bool) (service : Nat)
deriving DecidableEq

/-- What a client does with a collection, and no call does. -/
def Deed.isIteration : Deed → Bool
  | looks _ | takes _ => true
  | _ => false

theorem Interface.service_eq_of_binding? {i : Interface} {service : String} {b : ServiceBinding}
    (h : i.binding? service = some b) : b.service = service := by
  simpa using List.find?_some h

namespace World

inductive Does : World → Deed → World → Prop where
  /-- A tree is replaced by any other. -/
  | tree (w : World) (n : Nat) (t : Tree) : Does w .quiet (w.setTree n t)
  | read (w : World) (a : Adapter) (m : Method) : Does w .quiet (w.read a m).1
  | adapt {w w' : World} {factory : Factory} {r : Resource} {interface : String} {a : Adapter}
      (built : w.adapt factory r interface = .ok (w', a)) : Does w .quiet w'
  | object {w w' : World} {r : Resource} {target : String} {o : TreeObject}
      (given : w.adaptObject r target = some (w', o)) : Does w .quiet w'
  | looks (w : World) (c : Children) : Does w (.looks c.id) (w.hasNext c).1
  | takes (w : World) (c : Children) : Does w (.takes c.id) (w.next c).1
  | misses {w u : World} {a : Adapter} {b : ServiceBinding} {e : AdapterError}
      (failed : w.serviceFor a b = (u, .error e)) : Does w (.misses a.id b.service) u
  | forwards {w u : World} {a : Adapter} {b : ServiceBinding} {id : Nat}
      (served : w.serviceFor a b = (u, .ok id)) (method : String) (args : List Value) :
      Does w (.forwards a.id b.service (w.service? a b.service).isNone id)
        (u.callService a id method args).1

/-- Steps one after the other, with their deeds. -/
inductive Course : World → List Deed → World → Prop where
  | nil (w : World) : Course w [] w
  | cons {w u v : World} {d : Deed} {ds : List Deed} (step : Does w d u) (rest : Course u ds v) :
      Course w (d :: ds) v

theorem Does.run {w w' : World} {d : Deed} (h : Does w d w') : Run w w' := by
  cases h with
  | tree n t => exact .single (.tree w n t)
  | read a m => exact .single (.read w a m)
  | adapt built => exact .single (.adapt built)
  | object given => exact .single (.object given)
  | looks c => exact .single (.hasNext w c)
  | takes c => exact .single (.next w c)
  | @misses _ a b _ failed =>
    have step : Step w (w.serviceFor a b).1 := .service w a b
    rw [failed] at step
    exact .single step
  | @forwards u a b id served method args =>
    have step : Step w (w.serviceFor a b).1 := .service w a b
    rw [served] at step
    exact .tail (.single step) (.call u a id method args)

/-- All that a quiet step does: it changes a tree, or it makes things and may keep an answer. -/
theorem Does.quiet_cases {w u : World} (h : Does w .quiet u) :
    (∃ n t, u = w.setTree n t) ∨
    ∃ x, Makes w x ∧ (u = x ∨ ∃ a key v, u = x.store a key v) := by
  cases h with
  | tree n t => exact .inl ⟨n, t, rfl⟩
  | read a m =>
    right
    rcases read_cases w a m with same | ⟨address, x, v, _, _, computed, eq⟩
    · exact ⟨w, .refl w, .inl same⟩
    · exact ⟨x, makes_of_computed computed, .inr ⟨a, address.cacheKey, v, by rw [eq]⟩⟩
  | adapt built => exact .inr ⟨u, .adapt built, .inl rfl⟩
  | object given => exact .inr ⟨u, .adaptObject given, .inl rfl⟩

namespace Course
variable {w u v : World} {ds es : List Deed}

theorem run (h : Course w ds v) : Run w v := by
  induction h with
  | nil w => exact .refl
  | cons step _ ih => exact step.run.trans ih

theorem append (first : Course w ds u) (second : Course u es v) : Course w (ds ++ es) v := by
  induction first with
  | nil w => exact second
  | cons step _ ih => exact .cons step (ih second)

theorem single {d : Deed} (step : Does w d u) : Course w [d] u :=
  .cons step (.nil u)

end Course

/-! ## Calls are courses -/

/-- There is a course from one world to the other with deeds of one kind. -/
def Passes (kind : Deed → Prop) (w w' : World) : Prop :=
  ∃ ds, Course w ds w' ∧ ∀ d ∈ ds, kind d

namespace Passes
variable {kind : Deed → Prop} {w u v : World}

theorem refl (w : World) : Passes kind w w :=
  ⟨[], .nil w, by simp⟩

theorem single {d : Deed} (step : Does w d u) (of_kind : kind d) : Passes kind w u :=
  ⟨[d], .single step, by simpa using of_kind⟩

theorem trans (first : Passes kind w u) (second : Passes kind u v) : Passes kind w v := by
  obtain ⟨ds, course, all⟩ := first
  obtain ⟨es, later, all'⟩ := second
  refine ⟨ds ++ es, course.append later, ?_⟩
  intro d mem
  exact (List.mem_append.1 mem).elim (all d) (all' d)

/-- A script passes as the calls do that it makes. -/
theorem of_play {invoke : World → Adapter → String → List Value → Option (World × Outcome)}
    (nested : ∀ w a name args w' outcome, invoke w a name args = some (w', outcome) →
      Passes kind w w')
    {script : Script} {outcome : Outcome} (h : play invoke script w = some (u, outcome)) :
    Passes kind w u := by
  induction script generalizing w with
  | answer o =>
    cases h
    exact .refl u
  | invoke a method args next ih =>
    rw [play] at h
    split at h
    · cases h
    · next called => exact (nested _ _ _ _ _ _ called).trans (ih _ h)

end Passes

/-- A description neither searches for a service nor calls one. -/
theorem quiet_entries (w : World) (a : Adapter) (methods : List Method) :
    Passes (· = .quiet) w (w.entries a methods).1 := by
  induction methods generalizing w with
  | nil => exact .refl w
  | cons m rest ih =>
    have first : Passes (· = .quiet) w (w.readNamed a m.name).1 := by
      unfold readNamed
      split
      · exact .refl w
      · exact .single (.read w a _) rfl
    exact first.trans (ih _)

/-- Each service that an adapter has is stored. -/
def Housed (w : World) : Prop :=
  ∀ (a : Adapter) (interface : String) (id : Nat),
    w.service? a interface = some id → id < w.services.size

/-- A service that is had or found is stored. -/
theorem Housed.exists_stored {w u : World} (housed : w.Housed) {a : Adapter} {b : ServiceBinding}
    {id : Nat} (served : w.serviceFor a b = (u, .ok id)) : ∃ s, u.services[id]? = some s := by
  rcases serviceFor_cases w a b with ⟨_, has, eq⟩ | ⟨_, _, _, eq⟩ | ⟨_, s, _, eq⟩
  · cases eq.symm.trans served
    exact ⟨_, Array.getElem?_eq_getElem (housed a b.service id has)⟩
  · cases eq.symm.trans served
  · cases eq.symm.trans served
    exact ⟨⟨s, 0⟩, Array.getElem?_push_size⟩

/-- A call to a stored service counts there and is answered by that service. -/
theorem callService_of_stored {w : World} {id : Nat} {s : ServiceState}
    (stored : w.services[id]? = some s) (a : Adapter) (method : String) (args : List Value) :
    w.callService a id method args =
      ({ w with services := w.services.setIfInBounds id { s with calls := s.calls + 1 } },
        s.service.respond ⟨a, s.calls + 1, method, args⟩) := by
  unfold callService
  rw [stored]

/-- What a call records before any service calls back, by what answers it. -/
inductive Begins (w : World) (a : Adapter) (name : String) (args : List Value) :
    List Deed → World → Outcome → Prop where
  | unknown {e : AdapterError}
      (failed : lookup a (w.factoryOf a).settings name args.length = .error e) :
      Begins w a name args [] w (.error e)
  /-- A method of another category. -/
  | own {m : Method} {ds : List Deed} {w' : World} {outcome : Outcome}
      (found : lookup a (w.factoryOf a).settings name args.length = .ok m)
      (recognized : m.category (w.factoryOf a).settings ≠ .unrecognized)
      (quiet : ∀ d ∈ ds, d = .quiet) : Begins w a name args ds w' outcome
  | unbound {m : Method}
      (found : lookup a (w.factoryOf a).settings name args.length = .ok m)
      (unrecognized : m.category (w.factoryOf a).settings = .unrecognized)
      (free : a.interface.binding? m.declaredIn = none) :
      Begins w a name args [] w (.error (.noSuchAccessor (.unbound m.name m.declaredIn)))
  /-- The binding does not resolve. -/
  | misses {m : Method} {b : ServiceBinding} {u : World} {e : AdapterError}
      (found : lookup a (w.factoryOf a).settings name args.length = .ok m)
      (unrecognized : m.category (w.factoryOf a).settings = .unrecognized)
      (bound : a.interface.binding? m.declaredIn = some b)
      (failed : w.serviceFor a b = (u, .error e)) :
      Begins w a name args [.misses a.id m.declaredIn] u (.error e)
  /-- The service that is stored is asked, with the adapter, the name of the method and the arguments
  of this call, and counts it; the outcome is that of the script with which it answers. -/
  | forwards {m : Method} {b : ServiceBinding} {u w' : World} {id depth : Nat} {s : ServiceState}
      {rest : List Deed} {outcome : Outcome}
      (found : lookup a (w.factoryOf a).settings name args.length = .ok m)
      (unrecognized : m.category (w.factoryOf a).settings = .unrecognized)
      (bound : a.interface.binding? m.declaredIn = some b)
      (served : w.serviceFor a b = (u, .ok id))
      (stored : u.services[id]? = some s)
      (played : play (dispatch depth) (s.service.respond ⟨a, s.calls + 1, m.name, args⟩)
        { u with services := u.services.setIfInBounds id { s with calls := s.calls + 1 } } =
          some (w', outcome)) :
      Begins w a name args
        (.forwards a.id m.declaredIn (w.service? a m.declaredIn).isNone id :: rest) w' outcome

section
variable {depth : Nat} {w w' : World} {a : Adapter} {name : String} {args : List Value} {m : Method}
  {outcome : Outcome}

/-- A call that is not forwarded is a course of quiet deeds. -/
theorem course_of_quiet (found : lookup a (w.factoryOf a).settings name args.length = .ok m)
    (recognized : m.category (w.factoryOf a).settings ≠ .unrecognized)
    (quiet : Passes (· = .quiet) w w') :
    ∃ ds, Course w ds w' ∧ (∀ d ∈ ds, d.isIteration = false) ∧
      (w.Housed → Begins w a name args ds w' outcome) := by
  obtain ⟨ds, course, quiet⟩ := quiet
  refine ⟨ds, course, ?_, fun _ => .own found recognized quiet⟩
  intro d mem
  rw [quiet d mem]
  rfl

/-- A call that is forwarded searches for a service in vain, or asks the one that it has or finds and
goes on as that one's script does. -/
theorem course_of_forward
    (nested : ∀ w a name args w' outcome, dispatch depth w a name args = some (w', outcome) →
      Passes (·.isIteration = false) w w')
    (found : lookup a (w.factoryOf a).settings name args.length = .ok m)
    (unrecognized : m.category (w.factoryOf a).settings = .unrecognized)
    (h : forward (dispatch depth) w a m args = some (w', outcome)) :
    ∃ ds, Course w ds w' ∧ (∀ d ∈ ds, d.isIteration = false) ∧
      (w.Housed → Begins w a name args ds w' outcome) := by
  unfold forward at h
  split at h
  · next free =>
    cases h
    exact ⟨[], .nil w, by simp, fun _ => .unbound found unrecognized free⟩
  · next b bound =>
    have named := Interface.service_eq_of_binding? bound
    split at h
    · next failed =>
      cases h
      refine ⟨_, .single ?_, ?_, fun _ => .misses found unrecognized bound failed⟩
      · rw [← named]
        exact .misses failed
      · simp [Deed.isIteration]
    · next u id served =>
      obtain ⟨rest, later, calls⟩ := Passes.of_play nested h
      have step : Does w (.forwards a.id m.declaredIn (w.service? a m.declaredIn).isNone id)
          (u.callService a id m.name args).1 := by
        rw [← named]
        exact .forwards served m.name args
      refine ⟨_, .cons step later, ?_, ?_⟩
      · simpa [Deed.isIteration] using calls
      · intro housed
        obtain ⟨s, stored⟩ := housed.exists_stored served
        simp only [callService_of_stored stored] at h
        exact .forwards found unrecognized bound served stored h

/-- Every call is a course without iteration, also when services call adapters again; with all
services stored its record begins as what answers it says. -/
theorem course_of_dispatch (h : dispatch depth w a name args = some (w', outcome)) :
    ∃ ds, Course w ds w' ∧ (∀ d ∈ ds, d.isIteration = false) ∧
      (w.Housed → Begins w a name args ds w' outcome) := by
  induction depth generalizing w w' a name args outcome with
  | zero => cases h
  | succ depth ih =>
    -- the calls that a script makes nest less deep
    have nested (w a name args w' outcome)
        (called : dispatch depth w a name args = some (w', outcome)) :
        Passes (·.isIteration = false) w w' := by
      obtain ⟨ds, course, calls, _⟩ := ih called
      exact ⟨ds, course, calls⟩
    rw [dispatch] at h
    split at h
    · next failed =>
      cases h
      exact ⟨[], .nil w, by simp, fun _ => .unknown failed⟩
    · next m found =>
      split at h
      · next category =>
        cases h
        exact course_of_quiet found (by simp [category]) (quiet_entries w a _)
      · next category =>
        cases h
        exact course_of_quiet found (by simp [category]) (.refl w)
      · next category =>
        cases h
        exact course_of_quiet found (by simp [category]) (.refl w)
      · next unrecognized => exact course_of_forward nested found unrecognized h
      · next _ _ _ recognized =>
        have read : w.read a m = (w', outcome) := Option.some.inj h
        have step : Does w .quiet (w.read a m).1 := .read w a m
        rw [read] at step
        exact course_of_quiet found recognized (.single step rfl)

end

/-- Every call is a run, whatever services do in the course of it. -/
theorem run_of_dispatch {depth : Nat} {w w' : World} {a : Adapter} {name : String}
    {args : List Value} {outcome : Outcome}
    (h : dispatch depth w a name args = some (w', outcome)) : Run w w' := by
  obtain ⟨ds, course, _⟩ := course_of_dispatch h
  exact course.run

end World
end TreeAdapter
