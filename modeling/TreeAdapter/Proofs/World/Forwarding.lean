import TreeAdapter.Proofs.World.Course
import TreeAdapter.Service.Stock

/-!
# Forwarding

A call that no accessor answers goes to `forward`, which asks the service bound for the interface
that declares the method and builds it when it is first found. The service that is asked is the one
stored then (`Housed`, `Begins`). `ServiceLog` says what the record of one adapter for one interface
can be. Each step carries it on (`ServiceLog.step`), so it holds of every course, and a service that
calls the adapter back only adds to the course.

* `service_built_once` — a service is built at most once, by the first search that finds it, and
  every call forwarded for its interface reaches it
-/

namespace TreeAdapter
set_option autoImplicit false

namespace Deed

/-- It is a search or a forwarded call of one adapter for one interface. -/
def concerns (adapter : Nat) (interface : String) : Deed → Bool
  | misses a i | forwards a i _ _ => a = adapter && i = interface
  | _ => false

/-- It builds a service. -/
def builds : Deed → Bool
  | forwards _ _ built _ => built
  | _ => false

/-- It is a call that reaches this service. -/
def reaches (service : Nat) : Deed → Bool
  | forwards _ _ _ id => id = service
  | _ => false

/-- It is a call that is forwarded. -/
def isForwarded : Deed → Bool
  | forwards _ _ _ _ => true
  | _ => false

end Deed

/-- The record of an adapter for an interface, from the service that it had to the one it has. -/
inductive ServiceLog (adapter : Nat) (interface : String) :
    Option Nat → List Deed → Option Nat → Prop where
  /-- It had a service, and each forwarded call reached it. -/
  | kept (id calls : Nat) :
      ServiceLog adapter interface (some id)
        (List.replicate calls (.forwards adapter interface false id)) (some id)
  /-- No search has found one. -/
  | missing (searches : Nat) :
      ServiceLog adapter interface none (List.replicate searches (.misses adapter interface)) none
  /-- The first search that found one built it, and each later call reached it. -/
  | built (searches id calls : Nat) :
      ServiceLog adapter interface none
        (List.replicate searches (.misses adapter interface) ++
          .forwards adapter interface true id ::
            List.replicate calls (.forwards adapter interface false id)) (some id)

namespace ServiceLog
variable {adapter id : Nat} {interface : String} {log : List Deed} {after : Option Nat}

theorem misses (h : ServiceLog adapter interface none log after) :
    ServiceLog adapter interface none (.misses adapter interface :: log) after := by
  cases h with
  | missing searches => exact .missing (searches + 1)
  | built searches id calls => exact .built (searches + 1) id calls

/-- A call that builds the service may come before a record that starts with it. -/
theorem builds (h : ServiceLog adapter interface (some id) log after) :
    ServiceLog adapter interface none (.forwards adapter interface true id :: log) after := by
  cases h with
  | kept id calls => exact .built 0 id calls

theorem reuses (h : ServiceLog adapter interface (some id) log after) :
    ServiceLog adapter interface (some id) (.forwards adapter interface false id :: log) after := by
  cases h with
  | kept id calls => exact .kept id (calls + 1)

end ServiceLog

/-- A service after so many more calls. -/
def ServiceState.called (s : ServiceState) (calls : Nat) : ServiceState :=
  { s with calls := s.calls + calls }

namespace ServiceState

@[simp] theorem called_zero (s : ServiceState) : s.called 0 = s := rfl

@[simp] theorem called_called (s : ServiceState) (m n : Nat) :
    (s.called m).called n = s.called (m + n) := by
  simp [called, Nat.add_assoc]

end ServiceState

namespace World

/-! ## The services of adapters -/

/-- The services of an adapter are found in its own state and nowhere else. -/
theorem service?_congr {w w' : World} {a : Adapter}
    (h : (w'.adapter a.id).services = (w.adapter a.id).services) (interface : String) :
    w'.service? a interface = w.service? a interface := by
  rw [service?, h, service?]

/-- A new service is had by the adapter that it is made for, for that interface alone. -/
theorem service?_newService (w : World) (a b : Adapter) (interface other : String) (s : Service) :
    (w.newService a interface s).1.service? b other =
      if (a.id = b.id ∧ b.id < w.adapters.size) ∧ interface = other then some w.services.size
      else w.service? b other := by
  have state : (w.newService a interface s).1.adapter b.id = _ :=
    adapter_modify { w with services := w.services.push ⟨s, 0⟩ } a.id
      (fun s => { s with services := (interface, w.services.size) :: s.services }) b.id
  rw [service?, state]
  by_cases own : a.id = b.id ∧ b.id < w.adapters.size
  · rw [if_pos own]
    by_cases alike : interface = other
    · simp [own, alike]
    · rw [if_neg fun both => alike both.2, List.find?_cons_of_neg (by simpa using alike)]
      rfl
  · rw [if_neg own, if_neg fun both => own both.1]
    rfl

/-- Neither the services nor what the adapters have of them has changed. -/
structure KeepsServices (w w' : World) : Prop where
  services : w'.services = w.services
  bound : ∀ id, (w'.adapter id).services = (w.adapter id).services

namespace KeepsServices
variable {w w' w'' : World}

theorem of_eq (services : w'.services = w.services) (adapters : w'.adapters = w.adapters) :
    KeepsServices w w' :=
  ⟨services, fun id => by rw [adapter_congr adapters]⟩

theorem of_makes (h : Makes w w') : KeepsServices w w' :=
  ⟨h.services, h.services_eq⟩

theorem trans (first : KeepsServices w w') (second : KeepsServices w' w'') :
    KeepsServices w w'' :=
  ⟨second.services.trans first.services, fun id => (second.bound id).trans (first.bound id)⟩

theorem store (w : World) (a : Adapter) (key : String) (v : Value) :
    KeepsServices w (w.store a key v) := by
  refine ⟨rfl, fun id => ?_⟩
  rw [adapter_store]
  split <;> rfl

/-- An adapter keeps the service that it has for an interface, or that it has none. -/
theorem service?_eq (h : KeepsServices w w') (a : Adapter) (interface : String) :
    w'.service? a interface = w.service? a interface :=
  service?_congr (h.bound a.id) interface

/-- Only forwarded calls change anything: a search that fails keeps nothing. -/
theorem of_does {d : Deed} (does : Does w d w') (other : d.isForwarded = false) :
    KeepsServices w w' := by
  cases d with
  | quiet =>
    rcases does.quiet_cases with ⟨n, t, rfl⟩ | ⟨x, makes, rfl | ⟨a, key, v, rfl⟩⟩
    · exact of_eq rfl rfl
    · exact of_makes makes
    · exact (of_makes makes).trans (store x a key v)
  | looks =>
    cases does
    exact of_eq rfl rfl
  | takes =>
    cases does with
    | takes c =>
      have cursor : KeepsServices w (w.setCursor c.id (w.cursor c.id).take.1) := of_eq rfl rfl
      exact cursor.trans (of_makes (.next w c))
  | misses =>
    cases does with
    | @misses u a b e failed =>
      rcases serviceFor_cases w a b with ⟨_, _, eq⟩ | ⟨_, _, _, eq⟩ | ⟨_, _, _, eq⟩
      · cases eq.symm.trans failed
      · cases eq.symm.trans failed
        exact of_eq rfl rfl
      · cases eq.symm.trans failed
  | forwards => cases other

/-- A course that searches for no service and calls none keeps them. -/
theorem of_quiet {ds : List Deed} (course : Course w ds w') (quiet : ∀ d ∈ ds, d = .quiet) :
    KeepsServices w w' := by
  induction course with
  | nil w => exact of_eq rfl rfl
  | @cons w u v d ds step rest ih =>
    refine (of_does step ?_).trans (ih fun e mem => quiet e (List.mem_cons_of_mem d mem))
    rw [quiet d List.mem_cons_self]
    rfl

end KeepsServices

theorem adapters_callService (w : World) (a : Adapter) (id : Nat) (method : String)
    (args : List Value) : (w.callService a id method args).1.adapters = w.adapters := by
  unfold callService
  split <;> rfl

/-- A call of a service builds none. -/
theorem size_services_callService (w : World) (a : Adapter) (id : Nat) (method : String)
    (args : List Value) :
    (w.callService a id method args).1.services.size = w.services.size := by
  unfold callService
  split
  · rfl
  · exact Array.size_setIfInBounds

/-- A call counts at the service that it reaches and at no other. -/
theorem getElem?_services_callService (w : World) (a : Adapter) (id : Nat) (method : String)
    (args : List Value) (k : Nat) :
    (w.callService a id method args).1.services[k]? =
      (w.services[k]?).map fun s => s.called (decide (id = k)).toNat := by
  unfold callService
  cases here : w.services[id]? with
  | none =>
    by_cases same : id = k
    · subst same
      simp [here]
    · simp [same]
  | some s =>
    obtain ⟨inside, rfl⟩ := Array.getElem?_eq_some_iff.1 here
    simp only [Array.getElem?_setIfInBounds]
    by_cases same : id = k
    · subst same
      simp only [inside, ↓reduceIte, decide_true, Bool.toNat_true, Array.getElem?_eq_getElem,
        Option.map_some]
      rfl
    · simp [same]

/-! ## Steps -/

/-- What a forwarded call does before the service answers: the adapter has the service that it
reaches, and had it before unless the service was built for it. -/
theorem forwards_cases {w u : World} {a : Adapter} {b : ServiceBinding} {id : Nat}
    (served : w.serviceFor a b = (u, .ok id)) :
    (w.service? a b.service = some id ∧ u = w) ∨
    (w.service? a b.service = none ∧ id = w.services.size ∧ ∃ s,
      u = (w.countSearch.newService a b.service s).1) := by
  rcases serviceFor_cases w a b with ⟨_, has, eq⟩ | ⟨_, _, _, eq⟩ | ⟨free, s, _, eq⟩
  · cases eq.symm.trans served
    exact .inl ⟨has, rfl⟩
  · cases eq.symm.trans served
  · cases eq.symm.trans served
    exact .inr ⟨free, rfl, s, rfl⟩

/-- A call of a service changes for no adapter which service it has. -/
theorem service?_callService (w : World) (a b : Adapter) (id : Nat) (method : String)
    (args : List Value) (interface : String) :
    (w.callService a id method args).1.service? b interface = w.service? b interface :=
  service?_congr (by rw [adapter_congr (adapters_callService w a id method args)]) interface

theorem service?_of_id_eq (w : World) {a b : Adapter} (same : a.id = b.id) (interface : String) :
    w.service? a interface = w.service? b interface := by
  rw [service?, same, service?]

namespace Does
variable {w u : World} {a : Adapter} {interface : String}

/-- Other steps leave the service that an adapter has for an interface. -/
theorem service?_eq {d : Deed} (does : Does w d u) (made : a.id < w.adapters.size)
    (other : d.concerns a.id interface = false) :
    u.service? a interface = w.service? a interface := by
  cases forwarded : d.isForwarded with
  | false => exact (KeepsServices.of_does does forwarded).service?_eq a interface
  | true =>
    cases does with
    | @forwards u b binding id served method args =>
      rw [service?_callService]
      rcases forwards_cases served with ⟨_, rfl⟩ | ⟨_, _, s, rfl⟩
      · rfl
      · rw [service?_newService, if_neg]
        · rfl
        · rintro ⟨⟨same, _⟩, alike⟩
          simp [Deed.concerns, same, alike] at other
    | _ => cases forwarded

/-- A search that fails has found no service, and keeps none. -/
theorem misses_inv (does : Does w (.misses a.id interface) u) :
    w.service? a interface = none ∧ u.service? a interface = none := by
  rw [(KeepsServices.of_does does rfl).service?_eq, and_self]
  generalize deed : Deed.misses a.id interface = d at does
  cases does with
  | @misses u b binding e failed =>
    obtain ⟨same, rfl⟩ := Deed.misses.inj deed
    rw [service?_of_id_eq w same]
    rcases serviceFor_cases w b binding with ⟨_, _, eq⟩ | ⟨free, _⟩ | ⟨free, _⟩
    · cases eq.symm.trans failed
    · exact free
    · exact free
  | _ => cases deed

/-- A forwarded call reaches the service that the adapter has from then on. -/
theorem forwards_inv {built : Bool} {id : Nat}
    (does : Does w (.forwards a.id interface built id) u) (made : a.id < w.adapters.size) :
    w.service? a interface = (if built then none else some id) ∧
      u.service? a interface = some id := by
  generalize deed : Deed.forwards a.id interface built id = d at does
  cases does with
  | @forwards u b binding id' served method args =>
    obtain ⟨same, rfl, rfl, rfl⟩ := Deed.forwards.inj deed
    rw [service?_callService, service?_of_id_eq w same, service?_of_id_eq u same]
    rcases forwards_cases served with ⟨has, rfl⟩ | ⟨free, rfl, s, rfl⟩
    · simp [has]
    · have made' : b.id < w.countSearch.adapters.size := by
        rw [← same]
        exact made
      refine ⟨by simp [free], ?_⟩
      rw [service?_newService, if_pos ⟨⟨rfl, made'⟩, rfl⟩]
      rfl
  | _ => cases deed

/-- Services stay what they are: one more may be built, and a call counts at the one it reaches. -/
theorem services {d : Deed} (does : Does w d u) :
    u.services.size = w.services.size + d.builds.toNat ∧
    ∀ k (s : ServiceState), w.services[k]? = some s →
      u.services[k]? = some (s.called (d.reaches k).toNat) := by
  cases forwarded : d.isForwarded with
  | false =>
    have keeps := KeepsServices.of_does does forwarded
    have idle : d.builds = false ∧ ∀ k, d.reaches k = false := by
      cases d with
      | forwards => cases forwarded
      | _ => exact ⟨rfl, fun _ => rfl⟩
    rw [keeps.services, idle.1]
    refine ⟨rfl, ?_⟩
    intro k s here
    rw [idle.2]
    exact here
  | true =>
    cases does with
    | @forwards x b binding id served method args =>
      rw [size_services_callService]
      have counted (k : Nat) (s : ServiceState) (here : x.services[k]? = some s) :
          (x.callService b id method args).1.services[k]? =
            some (s.called (decide (id = k)).toNat) := by
        rw [getElem?_services_callService, here, Option.map_some]
      rcases forwards_cases served with ⟨has, rfl⟩ | ⟨free, rfl, s, rfl⟩
      · refine ⟨?_, counted⟩
        simp [Deed.builds, has]
      · constructor
        · simp [Deed.builds, free, newService, countSearch]
        · intro k t here
          refine counted k t ?_
          obtain ⟨inside, _⟩ := Array.getElem?_eq_some_iff.1 here
          show (w.services.push _)[k]? = some t
          rw [Array.getElem?_push, if_neg (Nat.ne_of_lt inside), here]
    | _ => cases forwarded

end Does
end World

/-- A step carries the record of an adapter for an interface on. -/
theorem ServiceLog.step {w u : World} {a : Adapter} (made : a.id < w.adapters.size) {d : Deed}
    (does : World.Does w d u) {interface : String} {log : List Deed} {after : Option Nat}
    (rest : ServiceLog a.id interface (u.service? a interface) log after) :
    ServiceLog a.id interface (w.service? a interface)
      (if d.concerns a.id interface then d :: log else log) after := by
  -- records are read from the front: `rest` starts from the service that this step leaves
  by_cases here : d.concerns a.id interface = true
  · rw [if_pos here]
    cases d with
    | misses n i =>
      obtain ⟨rfl, rfl⟩ : n = a.id ∧ i = interface := by simpa [Deed.concerns] using here
      obtain ⟨before, kept⟩ := does.misses_inv
      rw [kept] at rest
      rw [before]
      exact rest.misses
    | forwards n i built id =>
      obtain ⟨rfl, rfl⟩ : n = a.id ∧ i = interface := by simpa [Deed.concerns] using here
      obtain ⟨before, bound⟩ := does.forwards_inv made
      rw [bound] at rest
      rw [before]
      cases built with
      | true => exact rest.builds
      | false => exact rest.reuses
    | _ => cases here
  · rw [if_neg here, ← does.service?_eq made (Bool.eq_false_iff.2 here)]
    exact rest

namespace World

/-! ## Courses -/

namespace Course
variable {w v : World} {ds : List Deed}

theorem made (h : Course w ds v) {a : Adapter} (made : a.id < w.adapters.size) :
    a.id < v.adapters.size :=
  Nat.lt_of_lt_of_le made h.run.grows.made

/-- Over any course, what one adapter does for one interface is a record of it. -/
theorem serviceLog (h : Course w ds v) {a : Adapter} (made : a.id < w.adapters.size)
    (interface : String) :
    ServiceLog a.id interface (w.service? a interface)
      (ds.filter (·.concerns a.id interface)) (v.service? a interface) := by
  induction h with
  | nil w =>
    cases w.service? a interface with
    | none => exact .missing 0
    | some id => exact .kept id 0
  | @cons w u v d ds step rest ih =>
    rw [List.filter_cons]
    exact .step made step (ih ((Course.single step).made made))

/-- Over any course, the services are those that there were and those built, each called as often as
the course reaches it. -/
theorem services (h : Course w ds v) :
    v.services.size = w.services.size + ds.countP Deed.builds ∧
    ∀ id (s : ServiceState), w.services[id]? = some s →
      v.services[id]? = some (s.called (ds.countP (·.reaches id))) := by
  induction h with
  | nil w => exact ⟨rfl, fun id s here => here⟩
  | @cons w u v d ds step rest ih =>
    obtain ⟨size, kept⟩ := step.services
    obtain ⟨sizes, later⟩ := ih
    constructor
    · rw [sizes, size, List.countP_cons]
      cases d.builds <;> simp +arith
    · intro id s here
      rw [later id _ (kept id s here), ServiceState.called_called, List.countP_cons]
      cases d.reaches id <;> simp [Nat.add_comm]

end Course

/-! ## Where services are stored -/

/-- A world of trees has no adapters, so their services are housed. -/
theorem housed_ofTrees (trees : List Tree) : (ofTrees trees).Housed := by
  intro a interface id has
  cases has

namespace Housed
variable {w u : World}

/-- A step leaves the services where they are, and one that is built for an adapter is stored. -/
theorem does (housed : w.Housed) {d : Deed} (does : Does w d u) : u.Housed := by
  intro a interface id has
  have grown : w.services.size ≤ u.services.size := by
    rw [does.services.1]
    exact Nat.le_add_right _ _
  cases forwarded : d.isForwarded with
  | false =>
    rw [(KeepsServices.of_does does forwarded).service?_eq] at has
    exact Nat.lt_of_lt_of_le (housed a interface id has) grown
  | true =>
    cases does with
    | @forwards x b binding reached served method args =>
      rw [size_services_callService] at grown ⊢
      rw [service?_callService] at has
      rcases forwards_cases served with ⟨_, rfl⟩ | ⟨_, _, s, rfl⟩
      · exact housed a interface id has
      · rw [service?_newService] at has
        split at has
        · cases has
          simp [newService, countSearch]
        · exact Nat.lt_of_lt_of_le (housed a interface id has) grown
    | _ => cases forwarded

/-- Services stay housed over any course. -/
theorem course (housed : w.Housed) {ds : List Deed} (course : Course w ds u) : u.Housed := by
  induction course with
  | nil w => exact housed
  | cons step _ ih => exact ih (housed.does step)

end Housed

/-- A call of a method of another category builds no service and reaches none. -/
theorem keepsServices_of_dispatch {depth : Nat} {w w' : World} (housed : w.Housed) {a : Adapter}
    {name : String} {args : List Value} {outcome : Outcome} {m : Method}
    (called : dispatch depth w a name args = some (w', outcome))
    (found : lookup a (w.factoryOf a).settings name args.length = .ok m)
    (recognized : m.category (w.factoryOf a).settings ≠ .unrecognized) : KeepsServices w w' := by
  obtain ⟨ds, course, _, begins⟩ := course_of_dispatch called
  cases begins housed with
  | unknown failed => cases found.symm.trans failed
  | own _ _ quiet => exact .of_quiet course quiet
  | unbound found' unrecognized =>
    cases found.symm.trans found'
    exact absurd unrecognized recognized
  | misses found' unrecognized =>
    cases found.symm.trans found'
    exact absurd unrecognized recognized
  | forwards found' unrecognized =>
    cases found.symm.trans found'
    exact absurd unrecognized recognized

/-- An adapter without a service for an interface searches for one, and a failing search keeps
nothing but its count. -/
theorem serviceFor_of_free {w : World} {a : Adapter} {b : ServiceBinding}
    (made : a.id < w.adapters.size) (free : w.service? a b.service = none) :
    (∀ e, (w.factoryOf a).services.resolve w.searches b = .error e →
      w.serviceFor a b = (w.countSearch, .error e)) ∧
    ∀ s, (w.factoryOf a).services.resolve w.searches b = .ok s →
      ∃ u, w.serviceFor a b = (u, .ok w.services.size) ∧ u.services = w.services.push ⟨s, 0⟩ ∧
        u.service? a b.service = some w.services.size := by
  rcases serviceFor_cases w a b with ⟨_, has, _⟩ | ⟨_, e, failed, eq⟩ | ⟨_, s, found, eq⟩
  · cases free.symm.trans has
  · refine ⟨?_, ?_⟩
    · intro e' failed'
      cases failed.symm.trans failed'
      exact eq
    · intro s found
      cases failed.symm.trans found
  · refine ⟨?_, ?_⟩
    · intro e failed
      cases found.symm.trans failed
    · intro s' found'
      cases found.symm.trans found'
      have made' : a.id < w.countSearch.adapters.size := made
      refine ⟨_, eq, rfl, ?_⟩
      rw [service?_newService, if_pos ⟨⟨rfl, made'⟩, rfl⟩]
      rfl

/-- A service is built at most once for an adapter and an interface. Wherever courses lead from the
trees alone, every call is a course that begins as its category says: a call that is forwarded asks
the service stored for the adapter, and one of another category than the unrecognized touches no
service. Over every course: the searches of the adapter for an interface fail until one succeeds,
which builds the service, and from then on each call forwarded for the interface reaches it; as many
services are new as the record says were built; a service stays the one that it is and counts the
calls that reach it, whatever they come to; and while there is no service for an interface, the
next call searches again, with what the locator has by then. -/
theorem service_built_once {trees : List Tree} {es : List Deed} {w : World}
    (reached : Course (ofTrees trees) es w) {a : Adapter} (made : a.id < w.adapters.size) :
    ∀ ds v, Course w ds v →
      (∀ depth b name args v' outcome, dispatch depth v b name args = some (v', outcome) →
        (∃ ds', Course v ds' v' ∧ Begins v b name args ds' v' outcome) ∧
        ∀ m, lookup b (v.factoryOf b).settings name args.length = .ok m →
          m.category (v.factoryOf b).settings ≠ .unrecognized → KeepsServices v v') ∧
      (∀ interface, ServiceLog a.id interface (w.service? a interface)
        (ds.filter (·.concerns a.id interface)) (v.service? a interface)) ∧
      v.services.size = w.services.size + ds.countP Deed.builds ∧
      (∀ id (s : ServiceState), w.services[id]? = some s →
        v.services[id]? = some (s.called (ds.countP (·.reaches id)))) ∧
      ∀ b, v.service? a b.service = none →
        (∀ e, (w.factoryOf a).services.resolve v.searches b = .error e →
          v.serviceFor a b = (v.countSearch, .error e)) ∧
        ∀ s, (w.factoryOf a).services.resolve v.searches b = .ok s →
          ∃ u, v.serviceFor a b = (u, .ok v.services.size) ∧
            u.services = v.services.push ⟨s, 0⟩ ∧
            u.service? a b.service = some v.services.size := by
  intro ds v course
  have housed : v.Housed := (housed_ofTrees trees).course (reached.append course)
  refine ⟨?_, course.serviceLog made, course.services.1, course.services.2, ?_⟩
  · intro depth b name args v' outcome called
    refine ⟨?_, fun m found recognized => keepsServices_of_dispatch housed called found recognized⟩
    obtain ⟨ds', course', _, begins⟩ := course_of_dispatch called
    exact ⟨ds', course', begins housed⟩
  · intro b free
    have factory : v.factoryOf a = w.factoryOf a := course.run.grows.factory a.id made
    rw [← factory]
    exact serviceFor_of_free (course.made made) free

/-- The locator has the service from its second search on, and the service tells what it is asked:
the first call fails, the second builds the service, and the third, for which the service calls the
adapter again, reaches the same one twice. -/
theorem service_built_once_late :
    let teller : Service := ⟨fun call =>
      if call.method = "again" then .invoke call.adapter "tell" [.string "y"] .answer
      else .answer (.ok (.array (.string call.method :: .long (Int64.ofNat call.count) ::
        .resource call.adapter.resource :: call.args)))⟩
    let locator : Locator Service :=
      ⟨fun search _ _ => if search = 0 then none else some teller, fun _ _ _ => .ok none⟩
    let title : Method := ⟨"getTitle", [], some .string, none, ""⟩
    let tell : Method := ⟨"tell", [.string], none, none, ""⟩
    let again : Method := ⟨"again", [], none, none, ""⟩
    let page : Declaration :=
      ⟨"Page", [], [title, tell, again], [⟨"Page", some "pid", none, none⟩]⟩
    let f : Factory := { (default : Factory) with
      registry := (Registry.ofDeclarations [page]).toOption.getD Registry.empty
      services := ⟨NameMap.empty, some locator⟩ }
    ∃ w a, (ofTrees [Tree.empty]).adapt f ⟨0, Path.root⟩ "Page" = .ok (w, a) ∧
      Course (ofTrees [Tree.empty]) [.quiet] w ∧ a.id < w.adapters.size ∧
      ∃ u v x o p q, dispatch 2 w a "tell" [.string "x"] = some (u, o) ∧
        dispatch 2 u a "tell" [.string "x"] = some (v, p) ∧
        dispatch 2 v a "again" [] = some (x, q) ∧
        [o, p, q].map (·.toOption.map Value.text) =
          [none, some "[ tell , 1 , Resource(/) , x ]", some "[ tell , 3 , Resource(/) , y ]"] ∧
        ∃ ds, Course w ds x ∧
          ServiceLog a.id "Page" none (ds.filter (·.concerns a.id "Page")) (some 0) := by
  intro teller locator title tell again page f
  have outcomes :
      (((ofTrees [Tree.empty]).adapt f ⟨0, Path.root⟩ "Page").toOption.bind fun built =>
        (dispatch 2 built.1 built.2 "tell" [.string "x"]).bind fun o =>
          (dispatch 2 o.1 built.2 "tell" [.string "x"]).bind fun p =>
            (dispatch 2 p.1 built.2 "again" []).map fun q =>
              ([o.2, p.2, q.2].map (·.toOption.map Value.text), built.1.service? built.2 "Page",
                q.1.service? built.2 "Page")) =
        some ([none, some "[ tell , 1 , Resource(/) , x ]", some "[ tell , 3 , Resource(/) , y ]"],
          none, some 0) := by
    decide +kernel
  obtain ⟨⟨w, a⟩, built, rest⟩ := Option.bind_eq_some_iff.1 outcomes
  obtain ⟨⟨u, o⟩, first, rest⟩ := Option.bind_eq_some_iff.1 rest
  obtain ⟨⟨v, p⟩, second, rest⟩ := Option.bind_eq_some_iff.1 rest
  obtain ⟨⟨x, q⟩, third, eq⟩ := Option.map_eq_some_iff.1 rest
  obtain ⟨texts, services⟩ := Prod.mk.inj eq
  obtain ⟨free, has⟩ := Prod.mk.inj services
  have adapted := toOption_eq_some.1 built
  have reached : Course (ofTrees [Tree.empty]) [.quiet] w := .single (.adapt adapted)
  have made : a.id < w.adapters.size := (built_of_adapt adapted).1
  have calls := service_built_once reached made
  obtain ⟨ds, ds_course, _⟩ := ((calls _ _ (.nil w)).1 _ _ _ _ _ _ first).1
  obtain ⟨es, es_course, _⟩ := ((calls _ _ ds_course).1 _ _ _ _ _ _ second).1
  have course := ds_course.append es_course
  obtain ⟨fs, fs_course, _⟩ := ((calls _ _ course).1 _ _ _ _ _ _ third).1
  refine ⟨w, a, adapted, reached, made, u, v, x, o, p, q, first, second, third, texts, _,
    course.append fs_course, ?_⟩
  have log := (calls _ x (course.append fs_course)).2.1 "Page"
  rwa [free, has] at log

end World
end TreeAdapter
