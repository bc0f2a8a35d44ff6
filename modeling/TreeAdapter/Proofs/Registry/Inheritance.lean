import TreeAdapter.Proofs.Registry.Order

/-!
# What registered interfaces take over

The tables that `register` flattens, methods, bindings and exposed names, take from the parents what
an earlier entry does not clash with, which is one kind of fold, `Interface.adopt`. The interfaces
of a registry are met parents first (`Registry.Holds.interface_induction`), and each of them is
flattened in the sense of `Interface.IsFlattened`.

The main statement is `Registry.run_flattened`: the invariant of any run of registrations, of which
some may fail.
-/

namespace TreeAdapter
set_option autoImplicit false
open Relation Declarations

/-! ## Adding what does not clash -/

namespace Interface

section Adopt
variable {α : Type} (clash : α → α → Bool)

/-- A table with the entries of another one added, except those that an earlier entry clashes
with. -/
def adopt (table inherited : List α) : List α :=
  inherited.foldl (fun table x => if table.any (clash · x) then table else table ++ [x]) table

variable {clash} {table inherited : List α} {x : α}

theorem adopt_cons (y : α) (rest : List α) :
    adopt clash table (y :: rest) =
      adopt clash (if table.any (clash · y) then table else table ++ [y]) rest := rfl

/-- Parents are inherited from one by one, which is the same as from all their entries in order. -/
theorem foldl_adopt {β : Type} (entries : β → List α) (sources : List β) :
    sources.foldl (fun table s => adopt clash table (entries s)) table =
      adopt clash table (sources.flatMap entries) := by
  rw [adopt, List.foldl_flatMap]
  rfl

/-- What an interface has of its own, it keeps. -/
theorem mem_adopt_of_mem (h : x ∈ table) : x ∈ adopt clash table inherited := by
  induction inherited generalizing table with
  | nil => exact h
  | cons y rest ih =>
    rw [adopt_cons]
    apply ih
    split
    · exact h
    · exact List.mem_append_left _ h

/-- An interface has nothing but its own and what it inherits. -/
theorem mem_or_mem_of_mem_adopt (h : x ∈ adopt clash table inherited) :
    x ∈ table ∨ x ∈ inherited := by
  induction inherited generalizing table with
  | nil => exact .inl h
  | cons y rest ih =>
    rw [adopt_cons] at h
    rcases ih h with mem | mem
    · split at mem
      · exact .inl mem
      · rcases List.mem_append.1 mem with mem | mem
        · exact .inl mem
        · rw [List.mem_singleton.1 mem]
          exact .inr List.mem_cons_self
    · exact .inr (List.mem_cons_of_mem y mem)

/-- No two entries clash when those of the table do not. -/
theorem pairwise_adopt (apart : table.Pairwise fun a b => clash a b = false) :
    (adopt clash table inherited).Pairwise fun a b => clash a b = false := by
  induction inherited generalizing table with
  | nil => exact apart
  | cons y rest ih =>
    rw [adopt_cons]
    apply ih
    split
    · exact apart
    · next free =>
      refine List.pairwise_append.2 ⟨apart, List.pairwise_singleton _ y, ?_⟩
      intro a mem b last
      rw [List.mem_singleton.1 last]
      cases h : clash a y with
      | false => rfl
      | true => exact absurd (List.any_eq_true.2 ⟨a, mem, h⟩) free

/-- What is inherited stands in the table, or something in its place. -/
theorem exists_mem_adopt (refl : ∀ a, clash a a = true) (h : x ∈ inherited) :
    ∃ y ∈ adopt clash table inherited, clash y x = true := by
  induction inherited generalizing table with
  | nil => cases h
  | cons z rest ih =>
    rw [adopt_cons]
    rcases List.mem_cons.1 h with rfl | h
    · split
      · next taken =>
        obtain ⟨y, mem, clashes⟩ := List.any_eq_true.1 taken
        exact ⟨y, mem_adopt_of_mem mem, clashes⟩
      · have last : x ∈ table ++ [x] := by simp
        exact ⟨x, mem_adopt_of_mem last, refl x⟩
    · exact ih h

end Adopt

/-! ## One declaration -/

/-- The methods that a declaration writes, as the table holds them. -/
def ownMethods (d : Declaration) : List Method :=
  d.methods.map fun m => { m with declaredIn := d.name }

/-- The methods of an interface are its own, then those of its parents that no earlier one clashes
with. -/
theorem methods_ofDeclaration (d : Declaration) (parents : List Interface) :
    (ofDeclaration d parents).methods =
      adopt Method.clashes (ownMethods d) (parents.flatMap methods) :=
  foldl_adopt methods parents

/-- The bindings of an interface are its own, then those of its parents for services not bound yet.
-/
theorem services_ofDeclaration (d : Declaration) (parents : List Interface) :
    (ofDeclaration d parents).services =
      adopt (fun a b => a.service == b.service) d.services (parents.flatMap services) :=
  foldl_adopt services parents

/-- The interface has a method for calls of this name with so many arguments. -/
def Answers (i : Interface) (name : String) (arity : Nat) : Prop :=
  (i.method? name arity).isSome = true

/-- An interface answers a call when it has a method of that name and arity. -/
theorem answers_iff {i : Interface} {name : String} {arity : Nat} :
    i.Answers name arity ↔ ∃ m ∈ i.methods, (m.name, m.arity) = (name, arity) := by
  simp [Answers, method?, Method.answers, Prod.ext_iff]

/-- What a parent answers, an interface answers. -/
theorem Answers.inherit {d : Declaration} {parents : List Interface} {p : Interface}
    (mem : p ∈ parents) {name : String} {arity : Nat} (h : p.Answers name arity) :
    (ofDeclaration d parents).Answers name arity := by
  obtain ⟨m, hm, eq⟩ := answers_iff.1 h
  have inherited : m ∈ parents.flatMap methods := List.mem_flatMap.2 ⟨p, mem, hm⟩
  have refl (a : Method) : a.clashes a = true := Method.clashes_iff.2 rfl
  obtain ⟨n, hn, clashes⟩ : ∃ n ∈ (ofDeclaration d parents).methods, n.clashes m = true := by
    rw [methods_ofDeclaration]
    exact exists_mem_adopt refl inherited
  exact answers_iff.2 ⟨n, hn, (Method.clashes_iff.1 clashes).trans eq⟩

/-- What an interface takes over from the declarations that it is made of. -/
structure IsFlattened (i : Interface) (ds : List Declaration) : Prop where
  implements_iff : ∀ name, i.implements name = true ↔ ReflTransGen (Extends ds) i.name name
  methodsDistinct : i.methods.Pairwise fun m n => (m.name, m.arity) ≠ (n.name, n.arity)
  methodsDeclared : ∀ m ∈ i.methods, i.implements m.declaredIn = true ∧
    ∃ d ∈ ds, d.name = m.declaredIn ∧ m ∈ ownMethods d
  bound : ∀ b ∈ i.services, i.implements b.service = true

end Interface

namespace Registry

/-! ## The interfaces of a registry -/

namespace Holds
variable {r s : Registry} {ds es : List Declaration} {d : Declaration}

/-- Which declarations a registry holds does not depend on their order. -/
theorem perm (h : r.Holds ds) (p : es.Perm ds) : r.Holds es := by
  have back : ∀ d ∈ es, d ∈ ds := fun d => p.mem_iff.1
  have names : (declaredNames es).Perm (declaredNames ds) := p.map _
  have same : Extends es = Extends ds := by
    funext name parent
    exact propext ⟨Extends.mono back, Extends.mono fun d => p.mem_iff.2⟩
  constructor
  · exact fun d hd => h.sound d (back d hd)
  · exact names.nodup_iff.2 h.distinct
  · exact fun name => (h.contains_iff name).trans names.mem_iff.symm
  · exact fun d hd => h.flattened d (back d hd)
  · rw [same]
    exact h.reaches
  · rw [same]
    exact h.grounded

/-- Each interface is made of its declaration over its parents, which are met before it. -/
@[elab_as_elim]
theorem interface_induction (h : r.Holds ds) {motive : Interface → Prop}
    (step : ∀ d ∈ ds, ∀ parents, r.HasParents d.parents parents →
      r.get? d.name = some (.ofDeclaration d parents) →
      (∀ b ∈ d.services, (Interface.ofDeclaration d parents).implements b.service = true) →
      (∀ p ∈ parents, motive p) → motive (.ofDeclaration d parents))
    {name : String} {i : Interface} (found : r.get? name = some i) : motive i := by
  induction name using h.grounded.induction generalizing i with
  | _ name ih =>
    have known := (h.contains_iff name).1 (Registry.contains_iff.2 ⟨i, found⟩)
    obtain ⟨d, hd, rfl⟩ := List.mem_map.1 known
    obtain ⟨parents, hp, bound, foundToo⟩ := h.flattened d hd
    cases found.symm.trans foundToo
    refine step d hd parents hp found bound ?_
    intro p mem
    obtain ⟨parent, extended, foundParent⟩ := hp.exists_name mem
    exact ih parent ⟨d, hd, rfl, extended⟩ foundParent

/-- An interface is found under its own name. -/
theorem name_eq (h : r.Holds ds) {name : String} {i : Interface} (found : r.get? name = some i) :
    i.name = name := by
  have known := (h.contains_iff name).1 (Registry.contains_iff.2 ⟨i, found⟩)
  obtain ⟨d, hd, rfl⟩ := List.mem_map.1 known
  obtain ⟨parents, -, -, foundToo⟩ := h.flattened d hd
  cases found.symm.trans foundToo
  rfl

/-- An interface exposes the names that its declaration reaches along the parents. -/
theorem implements_iff (h : r.Holds ds) {name other : String} {i : Interface}
    (found : r.get? name = some i) :
    i.implements other = true ↔ ReflTransGen (Extends ds) name other := by
  constructor
  · exact h.reaches name i found other
  · intro reach
    exact h.implements_of_reaches h.wellFormed (fun _ => id) reach found

/-- Interfaces that expose the same names are one: each extends the other, and there is no
cycle. -/
theorem name_eq_of_exposed_eq (h : r.Holds ds) {name other : String} {i j : Interface}
    (foundI : r.get? name = some i) (foundJ : r.get? other = some j)
    (same : i.exposed = j.exposed) : name = other := by
  have implements : i.implements = j.implements := by
    funext n
    rw [Interface.implements, same, Interface.implements]
  have up : ReflTransGen (Extends ds) name other := by
    rw [← h.implements_iff foundI, implements, h.implements_iff foundJ]
  have down : ReflTransGen (Extends ds) other name := by
    rw [← h.implements_iff foundJ, ← implements, h.implements_iff foundI]
  rcases reflTransGen_iff_eq_or_transGen.1 up with eq | chain
  · exact eq.symm
  · exact absurd (chain.trans_left down) (h.wellFormed.acyclic name)

/-- No two methods of an interface share name and arity. -/
theorem methodsDistinct (h : r.Holds ds) {name : String} {i : Interface}
    (found : r.get? name = some i) :
    i.methods.Pairwise fun m n => (m.name, m.arity) ≠ (n.name, n.arity) := by
  refine h.interface_induction ?_ found
  intro d hd parents _ _ _ _
  have own : (Interface.ownMethods d).Pairwise fun m n => m.clashes n = false := by
    refine List.pairwise_map.2 ((h.sound d hd).methodsDistinct.imp ?_)
    intro m n ne
    exact Bool.eq_false_iff.2 fun clash => ne (Method.clashes_iff.1 clash)
  rw [Interface.methods_ofDeclaration]
  refine (Interface.pairwise_adopt own).imp ?_
  intro m n apart eq
  rw [Method.clashes_iff.2 eq] at apart
  cases apart

/-- No method of an interface hides another. -/
theorem method?_of_mem (h : r.Holds ds) {name : String} {i : Interface}
    (found : r.get? name = some i) {m : Method} (mem : m ∈ i.methods) :
    i.method? m.name m.arity = some m := by
  obtain ⟨before, after, methods⟩ := List.append_of_mem mem
  have distinct := h.methodsDistinct found
  rw [methods, List.pairwise_append] at distinct
  refine List.find?_eq_some_iff_append.2 ⟨by simp [Method.answers], before, after, methods, ?_⟩
  intro n earlier
  have apart := distinct.2.2 n earlier m List.mem_cons_self
  rw [Bool.not_eq_true', Bool.eq_false_iff]
  exact fun same => apart (Method.clashes_iff.1 same)

/-- Every method of an interface was written in a declaration that the interface exposes. -/
theorem methodsDeclared (h : r.Holds ds) {name : String} {i : Interface}
    (found : r.get? name = some i) :
    ∀ m ∈ i.methods, i.implements m.declaredIn = true ∧
      ∃ d ∈ ds, d.name = m.declaredIn ∧ m ∈ Interface.ownMethods d := by
  refine h.interface_induction ?_ found
  intro d hd parents _ _ _ ih m mem
  rw [Interface.methods_ofDeclaration] at mem
  rcases Interface.mem_or_mem_of_mem_adopt mem with own | inherited
  · have named : d.name = m.declaredIn := by
      obtain ⟨_, _, rfl⟩ := List.mem_map.1 own
      rfl
    exact ⟨Interface.implements_ofDeclaration.2 (.inl named), d, hd, named, own⟩
  · obtain ⟨p, hp, hm⟩ := List.mem_flatMap.1 inherited
    obtain ⟨exposed, declared⟩ := ih p hp m hm
    exact ⟨Interface.implements_ofDeclaration.2 (.inr ⟨p, hp, exposed⟩), declared⟩

/-- A reference has a path. -/
theorem referencesLead (h : r.Holds ds) {name : String} {i : Interface}
    (found : r.get? name = some i) : ∀ m ∈ i.methods, ∀ access,
      m.accessor = some (.reference access) → Text.isBlankText access.path = false := by
  intro m mem access metadata
  obtain ⟨-, d, declares, -, own⟩ := h.methodsDeclared found m mem
  obtain ⟨n, written, rfl⟩ := List.mem_map.1 own
  exact (h.sound d declares).referencesLead n written access metadata

/-- An interface binds only services whose names it exposes. -/
theorem bound (h : r.Holds ds) {name : String} {i : Interface} (found : r.get? name = some i) :
    ∀ b ∈ i.services, i.implements b.service = true := by
  refine h.interface_induction ?_ found
  intro d _ parents _ _ bound ih b mem
  rw [Interface.services_ofDeclaration] at mem
  rcases Interface.mem_or_mem_of_mem_adopt mem with own | inherited
  · exact bound b own
  · obtain ⟨p, hp, hb⟩ := List.mem_flatMap.1 inherited
    exact Interface.implements_ofDeclaration.2 (.inr ⟨p, hp, ih p hp b hb⟩)

/-- A registered interface is its declaration with all that it extends. -/
theorem isFlattened (h : r.Holds ds) {name : String} {i : Interface}
    (found : r.get? name = some i) : i.IsFlattened ds where
  implements_iff := fun other => by rw [h.name_eq found, h.implements_iff found]
  methodsDistinct := h.methodsDistinct found
  methodsDeclared := h.methodsDeclared found
  bound := h.bound found

/-- What an interface exposes is registered, and the interface answers all that it answers. -/
theorem substitutes (h : r.Holds ds) {name : String} {i : Interface}
    (found : r.get? name = some i) : ∀ other, i.implements other = true →
      ∃ j, r.get? other = some j ∧ ∀ method arity, j.Answers method arity → i.Answers method arity := by
  refine h.interface_induction ?_ found
  intro d _ parents _ found _ ih other exposed
  rcases Interface.implements_ofDeclaration.1 exposed with rfl | ⟨p, hp, below⟩
  · exact ⟨_, found, fun _ _ => id⟩
  · obtain ⟨j, foundJ, answers⟩ := ih p hp other below
    exact ⟨j, foundJ, fun method arity h => (answers method arity h).inherit hp⟩

/-- When a declaration can be registered, told from the declarations before it. -/
theorem exists_register_iff (h : r.Holds ds) :
    (∃ s, r.register d = .ok s) ↔ d.IsSound ∧ d.name ∉ declaredNames ds ∧
      (∀ parent ∈ d.parents, parent ∈ declaredNames ds) ∧
      ∀ b ∈ d.services, ReflTransGen (Extends (d :: ds)) d.name b.service := by
  constructor
  · rintro ⟨s, run⟩
    have all := (h.register run).wellFormed
    obtain ⟨sound, -, parents, hp, -, -⟩ := register_eq_ok_iff.1 run
    refine ⟨sound, (List.nodup_cons.1 all.distinct).1, ?_, all.bound d List.mem_cons_self⟩
    intro parent extended
    obtain ⟨j, -, found⟩ := hp.exists_interface extended
    exact (h.contains_iff parent).1 (Registry.contains_iff.2 ⟨j, found⟩)
  · rintro ⟨sound, fresh, known, bound⟩
    have before := h.wellFormed
    have sub : ∀ e ∈ ds, e ∈ d :: ds := fun _ => List.mem_cons_of_mem d
    have all : WellFormed (d :: ds) := by
      constructor
      · exact List.forall_mem_cons.2 ⟨sound, before.sound⟩
      · exact List.nodup_cons.2 ⟨fresh, before.distinct⟩
      · intro e he parent extended
        rcases List.mem_cons.1 he with rfl | he
        · exact List.mem_cons_of_mem _ (known parent extended)
        · exact List.mem_cons_of_mem _ (before.closed e he parent extended)
      · exact acyclic_of_grounded (grounded_cons h.grounded before.closed fresh known)
      · intro e he b hb
        rcases List.mem_cons.1 he with rfl | he
        · exact bound b hb
        · exact ReflTransGen.mono (fun _ _ => Extends.mono sub) _ _ (before.bound e he b hb)
    exact h.exists_register all sub List.mem_cons_self fresh known

end Holds

/-! ## Runs -/

/-- The registry after a registration is tried. An error comes with no registry of its own, so what
fails changes nothing. Nothing is lost by that: `register` reads the registry in all that it checks
and writes it once, with the insertion that is its last step, and every check leaves before that
step; no error comes after an insertion that would have to be kept or taken back. -/
def attempt (r : Registry) (d : Declaration) : Registry :=
  match r.register d with
  | .ok s => s
  | .error _ => r

/-- The declarations of a run that are registered, in their order. -/
def accepted (r : Registry) : List Declaration → List Declaration
  | [] => []
  | d :: rest =>
    if (r.register d).isOk then d :: (r.attempt d).accepted rest else (r.attempt d).accepted rest

/-- However many registrations are tried, a registry holds what it held and those accepted. -/
theorem Holds.attempts {r : Registry} {ds : List Declaration} (h : r.Holds ds)
    (calls : List Declaration) : (calls.foldl attempt r).Holds (r.accepted calls ++ ds) := by
  induction calls generalizing r ds with
  | nil => exact h
  | cons d rest ih =>
    rw [List.foldl_cons, accepted]
    cases run : r.register d with
    | ok s =>
      have moved : r.attempt d = s := by rw [attempt, run]
      rw [moved]
      exact (ih (h.register run)).perm List.perm_middle.symm
    | error e =>
      have same : r.attempt d = r := by rw [attempt, run]
      rw [same]
      exact ih h

/-- A registry filled from nothing holds the declarations that it accepted. -/
theorem holds_attempts (calls : List Declaration) :
    (calls.foldl attempt empty).Holds (empty.accepted calls) := by
  simpa using holds_empty.attempts calls

/-- The registries that can be made, from lists or by registering, in any mixture. -/
inductive Made : Registry → Prop where
  | empty : Made Registry.empty
  | ofDeclarations {ds : List Declaration} {r : Registry} (run : ofDeclarations ds = .ok r) : Made r
  | attempt {r : Registry} (before : Made r) (d : Declaration) : Made (r.attempt d)

/-- Every registry that can be made holds some declarations. -/
theorem Made.exists_holds {r : Registry} (made : r.Made) : ∃ ds, r.Holds ds := by
  induction made with
  | empty => exact ⟨[], holds_empty⟩
  | ofDeclarations run =>
    obtain ⟨ds, -, held⟩ := holds_of_ofDeclarations run
    exact ⟨ds, held⟩
  | attempt before d ih =>
    obtain ⟨ds, held⟩ := ih
    exact ⟨_, held.attempts [d]⟩

/-- A registration that succeeds adds one name and keeps all interfaces. -/
theorem register_adds {r s : Registry} {d : Declaration} (run : r.register d = .ok s) :
    r.contains d.name = false ∧
      (∀ name, s.contains name = true ↔ name = d.name ∨ r.contains name = true) ∧
      ∀ name, r.contains name = true → s.get? name = r.get? name := by
  obtain ⟨-, free, parents, -, -, rfl⟩ := register_eq_ok_iff.1 run
  refine ⟨free, ?_, ?_⟩
  · intro name
    rw [contains_add, eq_comm]
    rfl
  · intro name known
    have ne : (Interface.ofDeclaration d parents).name ≠ name := by
      rintro rfl
      exact absurd (free.symm.trans known) (by decide)
    rw [get?_add, if_neg ne]

/-- After any run of registrations, failing ones among them: the next one changes nothing when it
fails, which it does exactly when the declarations registered so far do not support it, and else
adds one name and keeps all interfaces; and each interface is flattened over the declarations
registered so far, exposes interfaces that are registered, and answers all that they answer. -/
theorem run_flattened (calls : List Declaration) :
    let r := calls.foldl attempt empty
    let ds := empty.accepted calls
    (∀ d e, r.register d = .error e → r.attempt d = r) ∧
    (∀ d s, r.register d = .ok s → r.attempt d = s ∧ r.contains d.name = false ∧
      (∀ name, s.contains name = true ↔ name = d.name ∨ r.contains name = true) ∧
      ∀ name, r.contains name = true → s.get? name = r.get? name) ∧
    (∀ d, (∃ s, r.register d = .ok s) ↔ d.IsSound ∧ d.name ∉ declaredNames ds ∧
      (∀ parent ∈ d.parents, parent ∈ declaredNames ds) ∧
      ∀ b ∈ d.services, ReflTransGen (Extends (d :: ds)) d.name b.service) ∧
    (∀ name, r.contains name = true ↔ name ∈ declaredNames ds) ∧
    ∀ name i, r.get? name = some i → i.name = name ∧ i.IsFlattened ds ∧
      ∀ other, i.implements other = true → ∃ j, r.get? other = some j ∧
        ∀ method arity, j.Answers method arity → i.Answers method arity := by
  intro r ds
  have held : r.Holds ds := holds_attempts calls
  refine ⟨?_, ?_, ?_, held.contains_iff, ?_⟩
  · intro d e failed
    rw [attempt, failed]
  · intro d s run
    exact ⟨by rw [attempt, run], register_adds run⟩
  · intro d
    exact held.exists_register_iff
  · intro name i found
    exact ⟨held.name_eq found, held.isFlattened found, held.substitutes found⟩

end Registry
end TreeAdapter
