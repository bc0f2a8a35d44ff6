import Mathlib.Data.List.Forall2
import TreeAdapter.Interface.Registry
import TreeAdapter.Proofs.Except
import TreeAdapter.Proofs.NameMap

/-!
# Registering one declaration

`register_eq_ok_iff` says all that a registration does: it succeeds exactly when the declaration
is sound by itself, its name is free, its parents are there and its bindings are for interfaces
that it exposes; then one flattened interface is added. Later proofs use this and never open
`register`.
-/

namespace TreeAdapter
set_option autoImplicit false

/-- What a declaration has to be by itself, whatever is registered. -/
structure Declaration.IsSound (d : Declaration) : Prop where
  named : Registry.isInterfaceName d.name = true
  methodsNamed : ∀ m ∈ d.methods, Text.isBlankText m.name = false
  referencesLead : ∀ m ∈ d.methods, ∀ access, m.accessor = some (.reference access) →
    Text.isBlankText access.path = false
  methodsDistinct : d.methods.Pairwise fun m n => (m.name, m.arity) ≠ (n.name, n.arity)

/-- Methods clash when they have one name and one arity. -/
theorem Method.clashes_iff {m n : Method} :
    m.clashes n = true ↔ (m.name, m.arity) = (n.name, n.arity) := by
  simp [clashes, answers, Prod.ext_iff]

namespace Interface

/-- The names exposed are those collected and those that any parent exposes. -/
theorem contains_exposed_foldl (parents : List Interface) (s : NameSet) (name : String) :
    (parents.foldl (fun s p => s.union p.exposed) s).contains name = true ↔
      s.contains name = true ∨ ∃ p ∈ parents, p.implements name = true := by
  induction parents generalizing s with
  | nil => simp
  | cons p rest ih =>
    rw [List.foldl_cons, ih, NameSet.contains_union, or_assoc]
    simp [implements]

/-- An interface exposes itself and what its parents expose. -/
theorem implements_ofDeclaration {d : Declaration} {parents : List Interface} {name : String} :
    (ofDeclaration d parents).implements name = true ↔
      d.name = name ∨ ∃ p ∈ parents, p.implements name = true := by
  rw [implements, ofDeclaration, contains_exposed_foldl, NameSet.contains_singleton]

end Interface

namespace Registry

/-- The names of parents, in order, lead to these interfaces of a registry. -/
def HasParents (r : Registry) (names : List String) (parents : List Interface) : Prop :=
  List.Forall₂ (fun name i => r.get? name = some i) names parents

/-- The registry with one more interface. -/
def add (r : Registry) (i : Interface) : Registry :=
  ⟨r.interfaces.insert i.name i⟩

/-- A new interface is found under its name, and the others as before. -/
theorem get?_add (r : Registry) (i : Interface) (name : String) :
    (r.add i).get? name = if i.name = name then some i else r.get? name :=
  NameMap.get?_insert r.interfaces i.name name i

theorem contains_add {r : Registry} {i : Interface} {name : String} :
    (r.add i).contains name = true ↔ i.name = name ∨ r.contains name = true :=
  NameMap.contains_insert r.interfaces i.name name i

theorem contains_iff {r : Registry} {name : String} :
    r.contains name = true ↔ ∃ i, r.get? name = some i :=
  NameMap.contains_iff

theorem get?_eq_none_of_not_contains {r : Registry} {name : String} (h : ¬ r.contains name = true) :
    r.get? name = none := by
  cases found : r.get? name with
  | none => rfl
  | some i => exact absurd (contains_iff.2 ⟨i, found⟩) h

/-- A registry is determined by what is found in it. -/
theorem ext_get? {r s : Registry} (h : ∀ name, r.get? name = s.get? name) : r = s := by
  obtain ⟨interfaces⟩ := r
  obtain ⟨others⟩ := s
  exact congrArg mk (NameMap.ext_get? h)

namespace HasParents
variable {r s : Registry} {names : List String} {parents : List Interface}

/-- Every parent that is named is among the parents found. -/
theorem exists_interface (h : r.HasParents names parents) {name : String} (mem : name ∈ names) :
    ∃ i ∈ parents, r.get? name = some i := by
  unfold HasParents at h
  induction h with
  | nil => simp at mem
  | cons first _ ih =>
    rcases List.mem_cons.1 mem with rfl | mem
    · exact ⟨_, List.mem_cons_self, first⟩
    · obtain ⟨i, hi, found⟩ := ih mem
      exact ⟨i, List.mem_cons_of_mem _ hi, found⟩

theorem exists_name (h : r.HasParents names parents) {i : Interface} (mem : i ∈ parents) :
    ∃ name ∈ names, r.get? name = some i := by
  unfold HasParents at h
  induction h with
  | nil => simp at mem
  | cons first _ ih =>
    rcases List.mem_cons.1 mem with rfl | mem
    · exact ⟨_, List.mem_cons_self, first⟩
    · obtain ⟨name, hn, found⟩ := ih mem
      exact ⟨name, List.mem_cons_of_mem _ hn, found⟩

/-- Registries that agree on the names of the parents have the same parents. -/
theorem unique (h : r.HasParents names parents) {others : List Interface} (ho : s.HasParents names others)
    (agree : ∀ name ∈ names, r.get? name = s.get? name) : parents = others := by
  unfold HasParents at h ho
  induction h generalizing others with
  | nil => exact (List.forall₂_nil_left_iff.1 ho).symm
  | cons first _ ih =>
    cases ho with
    | cons second rest =>
      rw [agree _ List.mem_cons_self, second] at first
      rw [Option.some.inj first, ih rest fun name mem => agree name (List.mem_cons_of_mem _ mem)]

/-- Parents stay the same when an interface of a new name comes. -/
theorem add (h : r.HasParents names parents) {i : Interface} (fresh : r.contains i.name = false) :
    (r.add i).HasParents names parents := by
  refine List.Forall₂.imp (fun name j hj => ?_) h
  have ne : i.name ≠ name := by
    rintro rfl
    rw [Registry.contains_iff.2 ⟨j, hj⟩] at fresh
    cases fresh
  rw [get?_add, if_neg ne, hj]

end HasParents

/-- If all the names are registered, the parents are found. -/
theorem exists_hasParents {r : Registry} {names : List String}
    (h : ∀ name ∈ names, r.contains name = true) : ∃ parents, r.HasParents names parents :=
  exists_forall₂_iff.2 fun name mem => contains_iff.1 (h name mem)

/-- Looking the parents up succeeds with the interfaces that they name, in order. -/
theorem parentsOf_eq_ok_iff {r : Registry} {d : Declaration} {parents : List Interface} :
    r.parentsOf d = .ok parents ↔ r.HasParents d.parents parents := by
  rw [parentsOf, HasParents, mapM_eq_ok]
  constructor
  · refine List.Forall₂.imp fun name i found => ?_
    cases h : r.get? name with
    | none => simp [h] at found
    | some j => simpa [h] using found
  · refine List.Forall₂.imp fun name i found => ?_
    rw [found]

/-- A method passes when it has a name and, for a reference, a path to the property that holds it.
-/
theorem checkMethod_eq_ok_iff {interface : String} {m : Method} :
    checkMethod interface m = .ok () ↔ Text.isBlankText m.name = false ∧
      ∀ access, m.accessor = some (.reference access) → Text.isBlankText access.path = false := by
  unfold checkMethod
  cases Text.isBlankText m.name with
  | true => simp
  | false =>
    cases m.accessor with
    | none => simp
    | some accessor =>
      cases accessor with
      | reference access => cases h : Text.isBlankText access.path <;> simp [h]
      | property access => simp
      | children access => simp

/-- The methods before the one that is checked are in `seen`. -/
theorem checkMethods_eq_ok_iff {interface : String} {seen methods : List Method} :
    checkMethods interface seen methods = .ok () ↔
      (∀ m ∈ methods, checkMethod interface m = .ok ()) ∧
      (∀ m ∈ methods, ∀ n ∈ seen, n.clashes m = false) ∧
      methods.Pairwise fun m n => m.clashes n = false := by
  induction methods generalizing seen with
  | nil => simp [checkMethods]
  | cons m rest ih =>
    unfold checkMethods
    rw [bind_eq_ok]
    by_cases clash : seen.any (·.clashes m) = true
    · obtain ⟨n, hn, hc⟩ := List.any_eq_true.1 clash
      simp only [clash, if_true]
      constructor
      · rintro ⟨_, _, h⟩
        cases h
      · rintro ⟨_, fresh, _⟩
        rw [fresh m List.mem_cons_self n hn] at hc
        cases hc
    · have fresh : ∀ n ∈ seen, n.clashes m = false := by
        intro n hn
        cases hc : n.clashes m with
        | false => rfl
        | true => exact absurd (List.any_eq_true.2 ⟨n, hn, hc⟩) clash
      simp only [clash, Bool.false_eq_true, if_false]
      have tail := @ih (seen ++ [m])
      constructor
      · rintro ⟨_, hm, hrest⟩
        obtain ⟨each, apart, pairwise⟩ := tail.1 hrest
        refine ⟨?_, ?_, List.pairwise_cons.2 ⟨?_, pairwise⟩⟩
        · exact List.forall_mem_cons.2 ⟨hm, each⟩
        · exact List.forall_mem_cons.2
            ⟨fresh, fun n hn k hk => apart n hn k (List.mem_append_left _ hk)⟩
        · exact fun n hn => apart n hn m (by simp)
      · rintro ⟨each, apart, pairwise⟩
        obtain ⟨first, later⟩ := List.pairwise_cons.1 pairwise
        refine ⟨(), each m List.mem_cons_self, tail.2 ⟨?_, ?_, later⟩⟩
        · exact fun n hn => each n (List.mem_cons_of_mem _ hn)
        · intro n hn k hk
          rcases List.mem_append.1 hk with hk | hk
          · exact apart n (List.mem_cons_of_mem _ hn) k hk
          · rw [List.mem_singleton.1 hk]
            exact first n hn

/-- Bindings pass when each is for an interface that is exposed. -/
theorem checkBindings_eq_ok_iff {interface : String} {exposed : NameSet}
    {services : List ServiceBinding} :
    checkBindings interface exposed services = .ok () ↔
      ∀ b ∈ services, exposed.contains b.service = true := by
  induction services with
  | nil => simp [checkBindings]
  | cons b rest ih =>
    unfold checkBindings
    cases h : exposed.contains b.service with
    | true => simpa [h] using ih
    | false => simp [h]

/-- A declaration is sound when registering passes its name and its methods. -/
theorem isSound_iff {d : Declaration} :
    d.IsSound ↔ isInterfaceName d.name = true ∧ checkMethods d.name [] d.methods = .ok () := by
  rw [checkMethods_eq_ok_iff]
  constructor
  · rintro ⟨named, methodsNamed, referencesLead, methodsDistinct⟩
    refine ⟨named, fun m hm => ?_, by simp, methodsDistinct.imp fun ne => ?_⟩
    · exact checkMethod_eq_ok_iff.2 ⟨methodsNamed m hm, referencesLead m hm⟩
    · exact Bool.eq_false_iff.2 fun h => ne (Method.clashes_iff.1 h)
  · rintro ⟨named, each, -, pairwise⟩
    refine ⟨named, fun m hm => ?_, fun m hm => ?_, pairwise.imp fun h eq => ?_⟩
    · exact (checkMethod_eq_ok_iff.1 (each m hm)).1
    · exact (checkMethod_eq_ok_iff.1 (each m hm)).2
    · rw [Method.clashes_iff.2 eq] at h
      cases h

/-- All that a registration asks for, and what it does. -/
theorem register_eq_ok_iff {r r' : Registry} {d : Declaration} :
    r.register d = .ok r' ↔ d.IsSound ∧ r.contains d.name = false ∧
      ∃ parents, r.HasParents d.parents parents ∧
        (∀ b ∈ d.services, (Interface.ofDeclaration d parents).implements b.service = true) ∧
        r' = r.add (Interface.ofDeclaration d parents) := by
  rw [isSound_iff]
  unfold register
  cases isInterfaceName d.name with
  | false => simp [throw, throwThe, MonadExceptOf.throw, bind, Except.bind]
  | true =>
    cases r.contains d.name with
    | true => simp [throw, throwThe, MonadExceptOf.throw, bind, Except.bind]
    | false =>
      simp only [Bool.not_true, Bool.false_eq_true, if_false, bind_eq_ok,
        parentsOf_eq_ok_iff, true_and]
      constructor
      · rintro ⟨parents, hp, _, methods, _, bindings, h⟩
        cases h
        exact ⟨methods, parents, hp, checkBindings_eq_ok_iff.1 bindings, rfl⟩
      · rintro ⟨methods, parents, hp, bindings, rfl⟩
        exact ⟨parents, hp, (), methods, (), checkBindings_eq_ok_iff.2 bindings, rfl⟩

end Registry
end TreeAdapter
