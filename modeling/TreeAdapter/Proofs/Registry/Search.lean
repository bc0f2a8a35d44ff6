import TreeAdapter.Proofs.Registry.Inheritance

/-!
# Looking up is searching the extensions

`Declarations.Search` is the plain search for a method or a binding: through the graph of
extensions, depth first and from left to right, up to the first declaration that has one of its own.
The look-ups `method` and `binding_for` of a flattened interface answer what this search comes to
(`Registry.Holds.search_iff`), since what it takes over from its parents is what each of them
answers already (`Interface.method?_ofDeclaration`).

* `Registry.lookups_search` — methods and bindings of every registered interface
-/

namespace TreeAdapter
set_option autoImplicit false
open Relation Declarations

namespace Declarations

/-- A search for the first declaration with something of its own. Of the names that wait the first
is looked at, and when it has nothing its parents are searched before the others. -/
inductive Search {α : Type} (ds : List Declaration) (own : Declaration → Option α) :
    List String → Option α → Prop where
  /-- No name is left. -/
  | ends : Search ds own [] none
  | finds {d : Declaration} {name : String} {waiting : List String} {x : α} (declared : d ∈ ds)
      (named : d.name = name) (has : own d = some x) : Search ds own (name :: waiting) (some x)
  | climbs {d : Declaration} {name : String} {waiting : List String} {outcome : Option α}
      (declared : d ∈ ds) (named : d.name = name) (lacks : own d = none)
      (rest : Search ds own (d.parents ++ waiting) outcome) :
      Search ds own (name :: waiting) outcome

/-- With distinct names a search has one outcome. -/
theorem Search.unique {α : Type} {ds : List Declaration} {own : Declaration → Option α}
    (distinct : (declaredNames ds).Nodup) {names : List String} {outcome other : Option α}
    (h : Search ds own names outcome) (ho : Search ds own names other) : outcome = other := by
  induction h with
  | ends =>
    cases ho
    rfl
  | finds declared named has =>
    cases ho with
    | finds declared' named' has' =>
      cases eq_of_name_eq distinct declared declared' (named.trans named'.symm)
      rw [← has, has']
    | climbs declared' named' lacks =>
      cases eq_of_name_eq distinct declared declared' (named.trans named'.symm)
      cases has.symm.trans lacks
  | climbs declared named lacks _ ih =>
    cases ho with
    | finds declared' named' has =>
      cases eq_of_name_eq distinct declared declared' (named.trans named'.symm)
      cases has.symm.trans lacks
    | climbs declared' named' _ rest =>
      cases eq_of_name_eq distinct declared declared' (named.trans named'.symm)
      exact ih rest

end Declarations

/-! ## One declaration -/

namespace Interface

/-- An entry that is looked for is found in the table, or else among what is inherited. -/
theorem find?_adopt {α : Type} {clash : α → α → Bool} {wanted : α → Bool}
    (alike : ∀ a b, clash a b = true → wanted b = true → wanted a = true) (table inherited : List α) :
    (adopt clash table inherited).find? wanted =
      (table.find? wanted).or (inherited.find? wanted) := by
  induction inherited generalizing table with
  | nil => exact (Option.or_none (o := table.find? wanted)).symm
  | cons x rest ih =>
    rw [adopt_cons, ih]
    split
    · next taken =>
      -- what is passed over is found only where an earlier entry is found
      obtain ⟨a, mem, clashes⟩ := List.any_eq_true.1 taken
      cases here : wanted x with
      | false => rw [List.find?_cons_of_neg (by simp [here])]
      | true =>
        have found : (table.find? wanted).isSome = true :=
          List.find?_isSome.2 ⟨a, mem, alike a x clashes here⟩
        rw [Option.or_of_isSome found, Option.or_of_isSome found]
    · rw [List.find?_append, Option.or_assoc, ← List.find?_append, List.singleton_append]

theorem method?_ofDeclaration (d : Declaration) (parents : List Interface) (name : String)
    (arity : Nat) :
    (ofDeclaration d parents).method? name arity =
      ((ownMethods d).find? (·.answers name arity)).or
        (parents.findSome? (·.method? name arity)) := by
  have alike (m n : Method) (clashes : m.clashes n = true) (answers : n.answers name arity = true) :
      m.answers name arity = true := by
    simp only [Method.answers, Bool.and_eq_true, beq_iff_eq] at answers
    rwa [Method.clashes, answers.1, answers.2] at clashes
  rw [method?, methods_ofDeclaration, find?_adopt alike, List.find?_flatMap]
  rfl

theorem binding?_ofDeclaration (d : Declaration) (parents : List Interface) (service : String) :
    (ofDeclaration d parents).binding? service =
      (d.services.find? (·.service == service)).or (parents.findSome? (·.binding? service)) := by
  have alike (a b : ServiceBinding) (clashes : (a.service == b.service) = true)
      (wanted : (b.service == service) = true) : (a.service == service) = true := by
    rwa [eq_of_beq clashes]
  rw [binding?, services_ofDeclaration, find?_adopt alike, List.find?_flatMap]
  rfl

end Interface

namespace Registry

/-! ## Registered interfaces -/

namespace Holds
variable {r : Registry} {ds : List Declaration} {α : Type} {own : Declaration → Option α}
  {flat : Interface → Option α}

/-- A search through parents comes to what the first of them has that has anything. -/
theorem search_parents (h : r.Holds ds) {names : List String} {parents : List Interface}
    (hp : r.HasParents names parents) {waiting : List String} {outcome : Option α}
    (each : ∀ p ∈ parents, ∀ waiting outcome, Search ds own waiting outcome →
      Search ds own (p.name :: waiting) ((flat p).or outcome))
    (rest : Search ds own waiting outcome) :
    Search ds own (names ++ waiting) ((parents.findSome? flat).or outcome) := by
  unfold HasParents at hp
  induction hp with
  | nil => exact rest
  | @cons name p names parents first _ ih =>
    have later := ih fun q mem => each q (List.mem_cons_of_mem p mem)
    have here := each p List.mem_cons_self _ _ later
    rw [h.name_eq first] at here
    rw [List.findSome?_cons]
    cases has : flat p with
    | none => simpa [has] using here
    | some x => simpa [has] using here

/-- A search that comes to a name comes to what its interface has, and goes on when it has
nothing. -/
theorem search_cons (h : r.Holds ds)
    (flattened : ∀ d parents,
      flat (.ofDeclaration d parents) = (own d).or (parents.findSome? flat))
    {name : String} {i : Interface} (found : r.get? name = some i) :
    ∀ waiting outcome, Search ds own waiting outcome →
      Search ds own (i.name :: waiting) ((flat i).or outcome) := by
  refine h.interface_induction ?_ found
  intro d hd parents hp _ _ ih waiting outcome rest
  rw [flattened]
  cases has : own d with
  | some x => exact .finds hd rfl has
  | none => exact .climbs hd rfl has (h.search_parents hp ih rest)

theorem search_iff (h : r.Holds ds) (flat : Interface → Option α)
    (flattened : ∀ d parents,
      flat (.ofDeclaration d parents) = (own d).or (parents.findSome? flat))
    {name : String} {i : Interface} (found : r.get? name = some i) {outcome : Option α} :
    Search ds own [name] outcome ↔ outcome = flat i := by
  have search : Search ds own [name] (flat i) := by
    have ended := h.search_cons flattened found _ _ .ends
    rwa [Option.or_none, h.name_eq found] at ended
  constructor
  · intro other
    exact other.unique h.distinct search
  · rintro rfl
    exact search

/-- Nothing answers a call exactly when no declaration does that the name reaches. -/
theorem method?_eq_none_iff (h : r.Holds ds) {name : String} {i : Interface}
    (found : r.get? name = some i) {method : String} {arity : Nat} :
    i.method? method arity = none ↔ ∀ d ∈ ds, ReflTransGen (Extends ds) name d.name →
      ∀ m ∈ d.methods, m.answers method arity = false := by
  constructor
  · intro unanswered d hd reach m mem
    have exposed : i.implements d.name = true := (h.implements_iff found).2 reach
    obtain ⟨j, foundJ, answers⟩ := h.substitutes found d.name exposed
    obtain ⟨parents, _, _, foundToo⟩ := h.flattened d hd
    cases foundJ.symm.trans foundToo
    rw [Bool.eq_false_iff]
    intro answered
    have written : (Interface.ofDeclaration d parents).Answers method arity := by
      rw [Interface.Answers, Interface.method?_ofDeclaration, Option.isSome_or, Bool.or_eq_true]
      exact .inl (List.find?_isSome.2 ⟨_, List.mem_map_of_mem mem, answered⟩)
    have taken := answers method arity written
    rw [Interface.Answers, unanswered] at taken
    cases taken
  · intro silent
    cases answer : i.method? method arity with
    | none => rfl
    | some m =>
      have inside : m ∈ i.methods := List.mem_of_find?_eq_some answer
      have answers := List.find?_some answer
      obtain ⟨exposed, d, hd, named, own⟩ := h.methodsDeclared found m inside
      obtain ⟨n, mem, rfl⟩ := List.mem_map.1 own
      have reach : ReflTransGen (Extends ds) name d.name := by
        rw [named]
        exact (h.implements_iff found).1 exposed
      have silence : n.answers method arity = false := silent d hd reach n mem
      exact absurd answers (Bool.eq_false_iff.1 silence)

end Holds

/-- From the registry of any list, after any registrations of which some may fail: a call is
answered by the method that a search from the interface comes to first, as the declaration that has
it writes it and under that declaration's name, and by none exactly when no declaration that is
reached has one; and the binding for a service is the first one of the first declaration that binds
it. -/
theorem lookups_search {before : List Declaration} {start : Registry}
    (made : ofDeclarations before = .ok start) (calls : List Declaration) :
    let r := calls.foldl attempt start
    let ds := start.accepted calls ++ before
    ∀ name i, r.get? name = some i →
      (∀ method arity outcome,
        Search ds (fun d => (Interface.ownMethods d).find? (·.answers method arity)) [name] outcome ↔
          outcome = i.method? method arity) ∧
      (∀ method arity, i.method? method arity = none ↔
        ∀ d ∈ ds, ReflTransGen (Extends ds) name d.name →
          ∀ m ∈ d.methods, m.answers method arity = false) ∧
      ∀ service outcome,
        Search ds (fun d => d.services.find? (·.service == service)) [name] outcome ↔
          outcome = i.binding? service := by
  intro r ds name i found
  have held : r.Holds ds := by
    obtain ⟨es, perm, first⟩ := holds_of_ofDeclarations made
    exact (first.perm perm.symm).attempts calls
  refine ⟨?_, ?_, ?_⟩
  · intro method arity outcome
    refine held.search_iff (·.method? method arity) ?_ found
    intro d parents
    exact Interface.method?_ofDeclaration d parents method arity
  · intro method arity
    exact held.method?_eq_none_iff found
  · intro service outcome
    refine held.search_iff (·.binding? service) ?_ found
    intro d parents
    exact Interface.binding?_ofDeclaration d parents service

/-- A diamond: the search comes to what the first parent takes over before it comes to the second
parent, which writes a method of its own. -/
theorem lookups_search_diamond :
    let name (type : DeclaredType) : Method := ⟨"getName", [], some type, none, ""⟩
    let named : Declaration := ⟨"Named", [], [name .string], []⟩
    let item : Declaration := ⟨"Item", ["Named"], [], []⟩
    let entry : Declaration := ⟨"Entry", ["Named"], [name .name], []⟩
    let page : Declaration := ⟨"Page", ["Item", "Entry", "Item"], [], []⟩
    ∃ start i, ofDeclarations [entry, item, named] = .ok start ∧
      ([page].foldl attempt start).get? "Page" = some i ∧
      Search (start.accepted [page] ++ [entry, item, named])
        (fun d => (Interface.ownMethods d).find? (·.answers "getName" 0)) ["Page"]
        (some { name .string with declaredIn := "Named" }) := by
  intro name named item entry page
  have outcome : ((ofDeclarations [entry, item, named]).toOption.bind fun start =>
      (([page].foldl attempt start).get? "Page").map fun i => i.method? "getName" 0) =
        some (some { name .string with declaredIn := "Named" }) := by
    decide +kernel
  obtain ⟨start, made, registered⟩ := Option.bind_eq_some_iff.1 outcome
  obtain ⟨i, found, method⟩ := Option.map_eq_some_iff.1 registered
  have started : ofDeclarations [entry, item, named] = .ok start := toOption_eq_some.1 made
  refine ⟨start, i, started, found, ?_⟩
  exact ((lookups_search started [page] "Page" i found).1 "getName" 0 _).2 method.symm

end Registry
end TreeAdapter
