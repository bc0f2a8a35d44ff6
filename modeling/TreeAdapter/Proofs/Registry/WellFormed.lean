import Mathlib.Data.Fintype.EquivFin
import Mathlib.Data.List.Nodup
import Mathlib.Logic.Relation
import Mathlib.Order.WellFounded
import TreeAdapter.Proofs.Registry.Registration

/-!
# Well-formed declarations

What a list of declarations has to be so that `from_decls` makes a registry of it, said without
registration: names, the graph of extensions and the bindings. `WellFormed.grounded` turns the
absence of cycles into an induction principle, since only finitely many names are declared.
-/

namespace TreeAdapter.Declarations
set_option autoImplicit false
open Relation

/-- The names that a list declares. -/
def declaredNames (ds : List Declaration) : List String :=
  ds.map (·.name)

/-- A declaration of the list has this name and extends `parent`. -/
def Extends (ds : List Declaration) (name parent : String) : Prop :=
  ∃ d ∈ ds, d.name = name ∧ parent ∈ d.parents

/-- Each declaration extends only names that are known or declared before it. -/
def ParentsFirst (known : List String) : List Declaration → Prop
  | [] => True
  | d :: rest => (∀ parent ∈ d.parents, parent ∈ known) ∧ ParentsFirst (d.name :: known) rest

instance decidableParentsFirst : (known : List String) → (ds : List Declaration) →
    Decidable (ParentsFirst known ds)
  | _, [] => inferInstanceAs (Decidable True)
  | known, d :: rest =>
    have := decidableParentsFirst (d.name :: known) rest
    inferInstanceAs (Decidable (_ ∧ _))

/-- What makes a list of declarations a registry. -/
structure WellFormed (ds : List Declaration) : Prop where
  sound : ∀ d ∈ ds, d.IsSound
  distinct : (declaredNames ds).Nodup
  closed : ∀ d ∈ ds, ∀ parent ∈ d.parents, parent ∈ declaredNames ds
  acyclic : ∀ name, ¬ TransGen (Extends ds) name name
  bound : ∀ d ∈ ds, ∀ b ∈ d.services, ReflTransGen (Extends ds) d.name b.service

@[simp] theorem declaredNames_cons (d : Declaration) (ds : List Declaration) :
    declaredNames (d :: ds) = d.name :: declaredNames ds := rfl

@[simp] theorem declaredNames_append (ds es : List Declaration) :
    declaredNames (ds ++ es) = declaredNames ds ++ declaredNames es :=
  List.map_append

theorem mem_declaredNames {ds : List Declaration} {d : Declaration} (h : d ∈ ds) :
    d.name ∈ declaredNames ds :=
  List.mem_map_of_mem h

theorem Extends.mono {ds es : List Declaration} (sub : ∀ d ∈ ds, d ∈ es) {name parent : String}
    (h : Extends ds name parent) : Extends es name parent := by
  obtain ⟨d, hd, named, extended⟩ := h
  exact ⟨d, sub d hd, named, extended⟩

/-- With distinct names a name has one declaration. -/
theorem eq_of_name_eq {ds : List Declaration} (distinct : (declaredNames ds).Nodup) {d e : Declaration}
    (hd : d ∈ ds) (he : e ∈ ds) (h : d.name = e.name) : d = e :=
  List.inj_on_of_nodup_map distinct hd he h

theorem ParentsFirst.mono {known more : List String} {ds : List Declaration}
    (sub : ∀ name ∈ known, name ∈ more) (h : ParentsFirst known ds) : ParentsFirst more ds := by
  induction ds generalizing known more with
  | nil => trivial
  | cons d rest ih =>
    refine ⟨fun parent hp => sub parent (h.1 parent hp), ih ?_ h.2⟩
    intro name hn
    rcases List.mem_cons.1 hn with rfl | hn
    · exact List.mem_cons_self
    · exact List.mem_cons_of_mem _ (sub name hn)

/-- Nothing has to wait when all parents are known from the start. -/
theorem parentsFirst_of_known {known : List String} {ds : List Declaration}
    (h : ∀ d ∈ ds, ∀ parent ∈ d.parents, parent ∈ known) : ParentsFirst known ds := by
  induction ds with
  | nil => trivial
  | cons d rest ih =>
    obtain ⟨first, later⟩ := List.forall_mem_cons.1 h
    exact ⟨first, (ih later).mono fun _ => List.mem_cons_of_mem _⟩

theorem WellFormed.perm {ds es : List Declaration} (p : es.Perm ds) (h : WellFormed ds) :
    WellFormed es := by
  have sub : ∀ d ∈ es, d ∈ ds := fun d => p.mem_iff.1
  have back : ∀ d ∈ ds, d ∈ es := fun d => p.mem_iff.2
  have same : (declaredNames es).Perm (declaredNames ds) := p.map _
  constructor
  · exact fun d hd => h.sound d (sub d hd)
  · exact same.nodup_iff.2 h.distinct
  · exact fun d hd parent hp => same.mem_iff.2 (h.closed d (sub d hd) parent hp)
  · intro name cycle
    exact h.acyclic name (TransGen.mono (fun _ _ => Extends.mono sub) _ _ cycle)
  · intro d hd b hb
    exact ReflTransGen.mono (fun _ _ => Extends.mono back) _ _ (h.bound d (sub d hd) b hb)

/-- Without cycles every chain of extensions ends, as there are finitely many names. -/
theorem WellFormed.grounded {ds : List Declaration} (h : WellFormed ds) :
    WellFounded fun parent name => Extends ds name parent := by
  let Name := { name : String // name ∈ declaredNames ds }
  let below : Name → Name → Prop := fun p n => TransGen (Extends ds) n.1 p.1
  have : IsTrans Name below := ⟨fun _ _ _ first second => second.trans first⟩
  have : Std.Irrefl below := ⟨fun n => h.acyclic n.1⟩
  have declared : WellFounded below := Finite.wellFounded_of_trans_of_irrefl below
  have reach : ∀ n : Name, Acc (fun parent name => Extends ds name parent) n.1 := by
    intro n
    induction n using declared.induction with
    | _ n ih =>
      apply Acc.intro
      intro parent step
      have known : parent ∈ declaredNames ds := by
        obtain ⟨d, hd, -, extended⟩ := step
        exact h.closed d hd parent extended
      exact ih ⟨parent, known⟩ (.single step)
  constructor
  intro name
  by_cases known : name ∈ declaredNames ds
  · exact reach ⟨name, known⟩
  · apply Acc.intro
    intro parent step
    obtain ⟨d, hd, rfl, -⟩ := step
    exact absurd (mem_declaredNames hd) known

/-- A new name over declared ones starts no endless chain. -/
theorem grounded_cons {ds : List Declaration} {d : Declaration}
    (grounded : WellFounded fun parent name => Extends ds name parent)
    (closed : ∀ e ∈ ds, ∀ parent ∈ e.parents, parent ∈ declaredNames ds)
    (fresh : d.name ∉ declaredNames ds) (known : ∀ parent ∈ d.parents, parent ∈ declaredNames ds) :
    WellFounded fun parent name => Extends (d :: ds) name parent := by
  -- from an old name only old names are reached, where nothing has changed
  have old : ∀ name, name ∈ declaredNames ds →
      Acc (fun parent name => Extends (d :: ds) name parent) name := by
    intro name
    induction name using grounded.induction with
    | _ name ih =>
      intro mem
      apply Acc.intro
      intro parent step
      obtain ⟨e, he, rfl, extended⟩ := step
      rcases List.mem_cons.1 he with rfl | he
      · exact absurd mem fresh
      · exact ih parent ⟨e, he, rfl, extended⟩ (closed e he parent extended)
  constructor
  intro name
  apply Acc.intro
  intro parent step
  obtain ⟨e, he, rfl, extended⟩ := step
  rcases List.mem_cons.1 he with rfl | he
  · exact old parent (known parent extended)
  · exact old parent (closed e he parent extended)

theorem acyclic_of_grounded {ds : List Declaration}
    (grounded : WellFounded fun parent name => Extends ds name parent) (name : String) :
    ¬ TransGen (Extends ds) name name := by
  intro cycle
  have flipped := transGen_swap.2 cycle
  exact grounded.transGen.irrefl.irrefl name flipped

end TreeAdapter.Declarations
