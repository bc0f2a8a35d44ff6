import TreeAdapter.Proofs.Registry.WellFormed

/-!
# Registries do not depend on the order of declarations

`Registry.Holds` is the invariant of registration: what a registry knows about the declarations
registered so far. Each successful `register` keeps it (`Holds.register`), it determines the
registry (`Holds.unique`), and it gives the conditions of `WellFormed` back (`Holds.wellFormed`).
The rounds of `from_decls` are runs of `register` in some order (`exists_run_of_registerAll`), and
well-formed declarations never get stuck in them (`exists_registerAll`).

The main statement is `ofDeclarations_order_free`.
-/

namespace TreeAdapter.Registry
set_option autoImplicit false
open Relation Declarations

/-- What a registry knows when it holds exactly the declarations `ds`. -/
structure Holds (r : Registry) (ds : List Declaration) : Prop where
  sound : ∀ d ∈ ds, d.IsSound
  distinct : (declaredNames ds).Nodup
  contains_iff : ∀ name, r.contains name = true ↔ name ∈ declaredNames ds
  flattened : ∀ d ∈ ds, ∃ parents, r.HasParents d.parents parents ∧
    (∀ b ∈ d.services, (Interface.ofDeclaration d parents).implements b.service = true) ∧
    r.get? d.name = some (.ofDeclaration d parents)
  reaches : ∀ name i, r.get? name = some i → ∀ other, i.implements other = true →
    ReflTransGen (Extends ds) name other
  grounded : WellFounded fun parent name => Extends ds name parent

theorem holds_empty : Holds empty [] := by
  constructor
  · simp
  · simp [declaredNames]
  · simp [contains, empty, NameMap.contains, NameMap.empty, declaredNames]
  · simp
  · intro name i h
    cases h
  · refine ⟨fun name => .intro _ fun parent step => ?_⟩
    obtain ⟨d, hd, -⟩ := step
    cases hd

namespace Holds
variable {r s : Registry} {ds es : List Declaration} {d : Declaration}

theorem closed (h : r.Holds ds) : ∀ d ∈ ds, ∀ parent ∈ d.parents, parent ∈ declaredNames ds := by
  intro d hd parent mem
  obtain ⟨parents, hp, -⟩ := h.flattened d hd
  obtain ⟨i, -, found⟩ := hp.exists_interface mem
  exact (h.contains_iff parent).1 (Registry.contains_iff.2 ⟨i, found⟩)

/-- One registration keeps the invariant. -/
theorem register (h : r.Holds ds) (run : r.register d = .ok s) : s.Holds (d :: ds) := by
  obtain ⟨sound, free, parents, hp, bound, rfl⟩ := register_eq_ok_iff.1 run
  set i := Interface.ofDeclaration d parents
  have fresh : d.name ∉ declaredNames ds := by
    intro known
    rw [(h.contains_iff d.name).2 known] at free
    cases free
  have known : ∀ parent ∈ d.parents, parent ∈ declaredNames ds := by
    intro parent mem
    obtain ⟨j, -, found⟩ := hp.exists_interface mem
    exact (h.contains_iff parent).1 (Registry.contains_iff.2 ⟨j, found⟩)
  have more : ReflTransGen (Extends ds) ≤ ReflTransGen (Extends (d :: ds)) :=
    ReflTransGen.mono fun _ _ => Extends.mono fun _ => List.mem_cons_of_mem d
  constructor
  case sound => exact List.forall_mem_cons.2 ⟨sound, h.sound⟩
  case distinct => exact List.nodup_cons.2 ⟨fresh, h.distinct⟩
  case contains_iff =>
    intro name
    rw [contains_add, h.contains_iff, declaredNames_cons, List.mem_cons, eq_comm]
    rfl
  case flattened =>
    intro e he
    rcases List.mem_cons.1 he with rfl | he
    · have found : (r.add i).get? i.name = some i := by rw [get?_add, if_pos rfl]
      exact ⟨parents, hp.add free, bound, found⟩
    · obtain ⟨others, ho, hb, found⟩ := h.flattened e he
      have ne : i.name ≠ e.name := by
        intro eq
        refine fresh ?_
        rw [show d.name = e.name from eq]
        exact mem_declaredNames he
      exact ⟨others, ho.add free, hb, by rw [get?_add, if_neg ne, found]⟩
  case reaches =>
    intro name j hj other implemented
    rw [get?_add] at hj
    split at hj
    · next eq =>
      cases hj
      subst eq
      rcases Interface.implements_ofDeclaration.1 implemented with rfl | ⟨p, hp', below⟩
      · exact .refl
      · obtain ⟨parent, mem, found⟩ := hp.exists_name hp'
        exact .head ⟨d, List.mem_cons_self, rfl, mem⟩ (more _ _ (h.reaches parent p found other below))
    · exact more _ _ (h.reaches name j hj other implemented)
  case grounded => exact grounded_cons h.grounded h.closed fresh known

/-- A run of registrations keeps the invariant. -/
theorem run (h : r.Holds ds) {es : List Declaration} (run : es.foldlM Registry.register r = .ok s) :
    s.Holds (es.reverse ++ ds) := by
  induction es generalizing r ds with
  | nil =>
    cases run
    exact h
  | cons e rest ih =>
    rw [List.foldlM_cons, bind_eq_ok] at run
    obtain ⟨middle, first, later⟩ := run
    have := ih (h.register first) later
    rwa [List.reverse_cons, List.append_assoc]

theorem wellFormed (h : r.Holds ds) : WellFormed ds := by
  constructor
  · exact h.sound
  · exact h.distinct
  · exact h.closed
  · exact acyclic_of_grounded h.grounded
  · intro d hd b hb
    obtain ⟨parents, -, bound, found⟩ := h.flattened d hd
    exact h.reaches d.name _ found b.service (bound b hb)

/-- The declarations determine the registry. -/
theorem unique (h : r.Holds ds) (ho : s.Holds es) (same : ∀ d, d ∈ ds ↔ d ∈ es) : r = s := by
  apply ext_get?
  intro name
  induction name using h.grounded.induction with
  | _ name ih =>
    by_cases known : name ∈ declaredNames ds
    · obtain ⟨d, hd, rfl⟩ := List.mem_map.1 known
      obtain ⟨parents, hp, -, found⟩ := h.flattened d hd
      obtain ⟨others, hop, -, foundToo⟩ := ho.flattened d ((same d).1 hd)
      have agree : ∀ parent ∈ d.parents, r.get? parent = s.get? parent :=
        fun parent mem => ih parent ⟨d, hd, rfl, mem⟩
      rw [found, foundToo, hp.unique hop agree]
    · have unknown : name ∉ declaredNames es := by
        intro mem
        obtain ⟨e, he, rfl⟩ := List.mem_map.1 mem
        exact known (mem_declaredNames ((same e).2 he))
      rw [get?_eq_none_of_not_contains (mt (h.contains_iff name).1 known),
        get?_eq_none_of_not_contains (mt (ho.contains_iff name).1 unknown)]

/-- What a name reaches in a larger well-formed list, its interface exposes. -/
theorem implements_of_reaches (h : r.Holds ds) (all : WellFormed es) (sub : ∀ d ∈ ds, d ∈ es)
    {name other : String} (reach : ReflTransGen (Extends es) name other) {i : Interface}
    (found : r.get? name = some i) : i.implements other = true := by
  induction reach using ReflTransGen.head_induction_on generalizing i with
  | refl =>
    obtain ⟨d, hd, rfl⟩ := List.mem_map.1 ((h.contains_iff _).1 (Registry.contains_iff.2 ⟨i, found⟩))
    obtain ⟨parents, -, -, foundToo⟩ := h.flattened d hd
    cases found.symm.trans foundToo
    exact Interface.implements_ofDeclaration.2 (.inl rfl)
  | @head start parent step _ ih =>
    obtain ⟨d, hd, rfl⟩ := List.mem_map.1 ((h.contains_iff _).1 (Registry.contains_iff.2 ⟨i, found⟩))
    obtain ⟨parents, hp, -, foundToo⟩ := h.flattened d hd
    cases found.symm.trans foundToo
    obtain ⟨e, he, named, extended⟩ := step
    cases eq_of_name_eq all.distinct he (sub d hd) named
    obtain ⟨p, hp', foundParent⟩ := hp.exists_interface extended
    exact Interface.implements_ofDeclaration.2 (.inr ⟨p, hp', ih foundParent⟩)

/-- A declaration of a well-formed list can be registered once its parents are. -/
theorem exists_register (h : r.Holds ds) (all : WellFormed es) (sub : ∀ d ∈ ds, d ∈ es)
    (mem : d ∈ es) (fresh : d.name ∉ declaredNames ds)
    (known : ∀ parent ∈ d.parents, parent ∈ declaredNames ds) : ∃ s, r.register d = .ok s := by
  obtain ⟨parents, hp⟩ := exists_hasParents fun parent hp => (h.contains_iff parent).2 (known parent hp)
  have free : r.contains d.name = false := by simpa using mt (h.contains_iff d.name).1 fresh
  refine ⟨_, register_eq_ok_iff.2 ⟨all.sound d mem, free, parents, hp, ?_, rfl⟩⟩
  intro b hb
  rcases (all.bound d mem b hb).cases_head with eq | ⟨parent, step, reach⟩
  · exact Interface.implements_ofDeclaration.2 (.inl eq)
  · obtain ⟨e, he, named, extended⟩ := step
    cases eq_of_name_eq all.distinct he mem named
    obtain ⟨p, hp', found⟩ := hp.exists_interface extended
    exact Interface.implements_ofDeclaration.2 (.inr ⟨p, hp', h.implements_of_reaches all sub reach found⟩)

/-- A part of a well-formed list can be registered in any order that puts parents first. -/
theorem exists_run (h : r.Holds ds) (all : WellFormed es) (sub : ∀ d ∈ ds, d ∈ es)
    {fs : List Declaration} (part : ∀ d ∈ fs, d ∈ es) (distinct : (declaredNames (fs ++ ds)).Nodup)
    (ordered : ParentsFirst (declaredNames ds) fs) : ∃ s, fs.foldlM Registry.register r = .ok s := by
  induction fs generalizing r ds with
  | nil => exact ⟨r, rfl⟩
  | cons d rest ih =>
    obtain ⟨memFirst, memRest⟩ := List.forall_mem_cons.1 part
    have new : d.name ∉ declaredNames ds := by
      rw [List.cons_append, declaredNames_cons, declaredNames_append, List.nodup_cons] at distinct
      exact fun mem => distinct.1 (List.mem_append_right _ mem)
    obtain ⟨middle, first⟩ := h.exists_register all sub memFirst new ordered.1
    have moved : (declaredNames (rest ++ d :: ds)).Nodup := by
      have perm : (rest ++ d :: ds).Perm (d :: (rest ++ ds)) := List.perm_middle
      exact (perm.map Declaration.name).nodup_iff.2 distinct
    obtain ⟨s, later⟩ :=
      ih (h.register first) (List.forall_mem_cons.2 ⟨memFirst, sub⟩) memRest moved ordered.2
    exact ⟨s, by rw [List.foldlM_cons, bind_eq_ok]; exact ⟨middle, first, later⟩⟩

end Holds

/-! ## Rounds -/

/-- Rounds register the declarations one after the other in some order. -/
theorem exists_run_of_registerAll {r s : Registry} {pending : List Declaration}
    (h : r.registerAll pending = .ok s) :
    ∃ ds : List Declaration, ds.Perm pending ∧ ds.foldlM register r = .ok s := by
  induction r, pending using registerAll.induct with
  | case1 r pending done =>
    rw [registerAll, if_pos done] at h
    cases h
    rw [List.isEmpty_iff.1 done]
    exact ⟨[], .nil, rfl⟩
  | case2 r pending more stuck =>
    rw [registerAll, if_neg more, dif_pos stuck] at h
    cases h
  | case3 r pending more going ih =>
    rw [registerAll, if_neg more, dif_neg going, bind_eq_ok] at h
    obtain ⟨middle, round, later⟩ := h
    obtain ⟨ds, perm, run⟩ := ih middle later
    refine ⟨r.ready pending ++ ds, ?_, ?_⟩
    · exact (perm.append_left _).trans (List.filter_append_perm r.isReady pending)
    · rw [List.foldlM_append, bind_eq_ok]
      exact ⟨middle, round, run⟩

/-- Among declarations that wait for each other and for nothing else, one has nothing to wait
for. -/
theorem Holds.ready_ne_nil {r : Registry} {ds es pending : List Declaration} (h : r.Holds ds)
    (all : WellFormed es) (parts : (pending ++ ds).Perm es) (more : pending ≠ []) :
    r.ready pending ≠ [] := by
  obtain ⟨d, hd⟩ := List.exists_mem_of_ne_nil pending more
  obtain ⟨name, mem, least⟩ := all.grounded.has_min {name | name ∈ declaredNames pending}
    ⟨d.name, mem_declaredNames hd⟩
  obtain ⟨d, hd, rfl⟩ := List.mem_map.1 mem
  have inAll : d ∈ es := parts.mem_iff.1 (List.mem_append_left _ hd)
  have isReady : r.isReady d = true := by
    apply List.all_eq_true.2
    intro parent extended
    obtain ⟨e, he, rfl⟩ := List.mem_map.1 (all.closed d inAll parent extended)
    rcases List.mem_append.1 (parts.mem_iff.2 he) with waits | registered
    · exact absurd ⟨d, inAll, rfl, extended⟩ (least e.name (mem_declaredNames waits))
    · exact (h.contains_iff e.name).2 (mem_declaredNames registered)
  exact List.ne_nil_of_mem (List.mem_filter.2 ⟨hd, isReady⟩)

/-- Rounds over the rest of a well-formed list come to an end. -/
theorem Holds.exists_registerAll {r : Registry} {ds es pending : List Declaration} (h : r.Holds ds)
    (all : WellFormed es) (parts : (pending ++ ds).Perm es) :
    ∃ s, r.registerAll pending = .ok s := by
  induction r, pending using registerAll.induct generalizing ds with
  | case1 r pending done =>
    rw [registerAll, if_pos done]
    exact ⟨r, rfl⟩
  | case2 r pending more stuck =>
    have ne : pending ≠ [] := fun nil => more (List.isEmpty_iff.2 nil)
    exact absurd stuck (h.ready_ne_nil all parts ne)
  | case3 r pending more going ih =>
    have split : (r.ready pending ++ r.waiting pending).Perm pending :=
      List.filter_append_perm r.isReady pending
    have together : (r.waiting pending ++ (r.ready pending).reverse).Perm pending := by
      have back : (r.ready pending).reverse.Perm (r.ready pending) := List.reverse_perm _
      exact List.perm_append_comm.trans ((back.append_right _).trans split)
    have moved : (r.waiting pending ++ ((r.ready pending).reverse ++ ds)).Perm es := by
      rw [← List.append_assoc]
      exact (together.append_right ds).trans parts
    have sub : ∀ d ∈ ds, d ∈ es := fun d hd => parts.mem_iff.1 (List.mem_append_right _ hd)
    have part : ∀ d ∈ r.ready pending, d ∈ es := fun d hd =>
      moved.mem_iff.1 (List.mem_append_right _ (List.mem_append_left _ (List.mem_reverse.2 hd)))
    have distinct : (declaredNames (r.ready pending ++ ds)).Nodup := by
      have sublist : (r.ready pending ++ ds).Sublist (pending ++ ds) :=
        List.filter_sublist.append_right ds
      exact (sublist.map Declaration.name).nodup ((parts.map Declaration.name).nodup_iff.2 all.distinct)
    have ordered : ParentsFirst (declaredNames ds) (r.ready pending) := by
      apply parentsFirst_of_known
      intro d hd parent extended
      have isReady := (List.mem_filter.1 hd).2
      exact (h.contains_iff parent).1 (List.all_eq_true.1 isReady parent extended)
    obtain ⟨middle, round⟩ := h.exists_run all sub part distinct ordered
    obtain ⟨s, later⟩ := ih middle (h.run round) moved
    rw [registerAll, if_neg more, dif_neg going]
    exact ⟨s, bind_eq_ok.2 ⟨middle, round, later⟩⟩

/-- A registry made of a list holds it. -/
theorem holds_of_ofDeclarations {ds : List Declaration} {r : Registry}
    (h : ofDeclarations ds = .ok r) : ∃ es, es.Perm ds ∧ r.Holds es := by
  obtain ⟨es, perm, run⟩ := exists_run_of_registerAll h
  have held := holds_empty.run run
  rw [List.append_nil] at held
  exact ⟨es.reverse, (List.reverse_perm es).trans perm, held⟩

theorem exists_ofDeclarations_iff {ds : List Declaration} :
    (∃ r, ofDeclarations ds = .ok r) ↔ WellFormed ds := by
  constructor
  · rintro ⟨r, h⟩
    obtain ⟨es, perm, held⟩ := holds_of_ofDeclarations h
    exact held.wellFormed.perm perm.symm
  · intro all
    exact holds_empty.exists_registerAll all (by rw [List.append_nil])

/-- Lists with the same declarations have the same registry. -/
theorem ofDeclarations_eq_of_perm {ds es : List Declaration} {r s : Registry} (perm : es.Perm ds)
    (hr : ofDeclarations ds = .ok r) (hs : ofDeclarations es = .ok s) : r = s := by
  obtain ⟨ds', permD, heldD⟩ := holds_of_ofDeclarations hr
  obtain ⟨es', permE, heldE⟩ := holds_of_ofDeclarations hs
  have same := permD.trans (perm.symm.trans permE.symm)
  exact heldD.unique heldE fun d => same.mem_iff

/-- A list makes a registry exactly when it is well formed. Its order does not matter, neither for
success nor for the registry, which is the one of registering one after the other, parents
first. -/
theorem ofDeclarations_order_free (ds : List Declaration) :
    ((∃ r, ofDeclarations ds = .ok r) ↔ WellFormed ds) ∧
    (∀ es : List Declaration, es.Perm ds →
      (ofDeclarations es).toOption = (ofDeclarations ds).toOption) ∧
    (∀ (es : List Declaration) (r : Registry), es.Perm ds → ParentsFirst [] es →
      ofDeclarations ds = .ok r → es.foldlM register empty = .ok r) := by
  refine ⟨exists_ofDeclarations_iff, ?_, ?_⟩
  · intro es perm
    cases hr : ofDeclarations ds with
    | ok r =>
      have all : WellFormed es := (exists_ofDeclarations_iff.1 ⟨r, hr⟩).perm perm
      obtain ⟨s, hs⟩ := exists_ofDeclarations_iff.2 all
      rw [hs, ofDeclarations_eq_of_perm perm hr hs]
    | error e =>
      cases hs : ofDeclarations es with
      | ok s =>
        have all : WellFormed ds := (exists_ofDeclarations_iff.1 ⟨s, hs⟩).perm perm.symm
        obtain ⟨r, ok⟩ := exists_ofDeclarations_iff.2 all
        rw [hr] at ok
        cases ok
      | error e' => rfl
  · intro es r perm ordered h
    have all : WellFormed es := (exists_ofDeclarations_iff.1 ⟨r, h⟩).perm perm
    have distinct : (declaredNames (es ++ [])).Nodup := by
      rw [List.append_nil]
      exact all.distinct
    obtain ⟨s, run⟩ := holds_empty.exists_run all (by simp) (fun _ => id) distinct ordered
    obtain ⟨ds', permD, held⟩ := holds_of_ofDeclarations h
    have heldS : s.Holds (es.reverse ++ []) := holds_empty.run run
    -- two registries that hold the same declarations are one
    have same : s = r := by
      apply heldS.unique held
      intro d
      rw [List.append_nil, List.mem_reverse]
      exact (perm.trans permD.symm).mem_iff
    rw [run, same]

/-- A page binds the service of the interface that it extends, and stands in front of it. -/
theorem ofDeclarations_order_free_page :
    let titled : Declaration := ⟨"Titled", [], [⟨"getTitle", [], some .string, none, ""⟩], []⟩
    let page : Declaration := ⟨"Page", ["Titled"], [], [⟨"Titled", some "titles", none, none⟩]⟩
    [titled, page].Perm [page, titled] ∧ ParentsFirst [] [titled, page] ∧
      ∃ r, ofDeclarations [page, titled] = .ok r ∧ [titled, page].foldlM register empty = .ok r := by
  intro titled page
  have perm : [titled, page].Perm [page, titled] := .swap _ _ _
  have ordered : ParentsFirst [] [titled, page] := by decide
  have made : (ofDeclarations [page, titled]).isOk = true := by decide +kernel
  refine ⟨perm, ordered, ?_⟩
  cases h : ofDeclarations [page, titled] with
  | ok r => exact ⟨r, rfl, (ofDeclarations_order_free [page, titled]).2.2 _ r perm ordered h⟩
  | error e =>
    rw [h] at made
    cases made

end TreeAdapter.Registry
