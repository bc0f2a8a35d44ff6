import TreeAdapter.Proofs.NameMap
import TreeAdapter.Proofs.World.Liveness
import TreeAdapter.Proofs.World.Scene
import TreeAdapter.Service.Stock

/-!
# Who owns whom

The adapter that a reading makes goes into the cache of the adapter that was read, by its `store`,
and nothing else ever puts one into a cache. `Scene.Effect` says what a move does to ownership:
nothing, or it gives one holder a new adapter. So caches form a forest of which each edge leads to a
younger adapter, whatever the interfaces and paths say.

* `Scene.Sound` — the forest, and that only what was made is held
* `Scene.ownership_forest` — at every moment: nothing owns itself, what is left when handles are let
  go is what is reached, and it does not come back
-/

namespace TreeAdapter
set_option autoImplicit false
open Relation

namespace World

/-- Each adapter stands in at most one cache, there once, and in that of an older one. -/
structure Forest (w : World) : Prop where
  made : ∀ owner id, w.Owns owner id → id < w.adapters.size
  older : ∀ owner id, w.Owns owner id → owner < id
  once : ∀ owner, (w.ownedBy owner).Nodup
  unique : ∀ owner other id, w.Owns owner id → w.Owns other id → owner = other

/-- A world of trees is a forest without adapters. -/
theorem forest_ofTrees (trees : List Tree) : (ofTrees trees).Forest where
  made := fun _ _ owns => by cases owns
  older := fun _ _ owns => by cases owns
  once := fun _ => List.nodup_nil
  unique := fun _ _ _ owns _ => by cases owns

namespace Forest
variable {w : World}

/-- In a forest, whoever owns was made before whatever it owns, directly or not. -/
theorem lt_of_transGen (h : w.Forest) {owner id : Nat} (path : TransGen w.Owns owner id) :
    owner < id := by
  induction path with
  | single owns => exact h.older _ _ owns
  | tail _ owns ih => exact Nat.lt_trans ih (h.older _ _ owns)

/-- In a forest nothing owns itself, directly or not. -/
theorem acyclic (h : w.Forest) (id : Nat) : ¬TransGen w.Owns id id :=
  fun path => Nat.lt_irrefl id (h.lt_of_transGen path)

end Forest

end World

/-- It hands on what it was called with and what its call answers. -/
theorem Service.discreet_delegate : Service.delegate.Discreet := by
  intro call
  unfold delegate
  dsimp only
  split
  · next method rest arguments =>
    refine ⟨List.mem_cons_self, ?_, ?_⟩
    · rw [arguments]
      exact List.subset_cons_self _ _
    · exact fun outcome => List.subset_append_left _ _
  · exact List.nil_subset _

namespace Scene
open World

/-! ## The effect of a move -/

/-- What a move does to ownership: nothing changes hands, or an adapter that is held gains a new
one. -/
structure Effect (s s' : Scene) : Prop where
  made : s.world.adapters.size ≤ s'.world.adapters.size
  owned : (∀ id, s'.world.ownedBy id = s.world.ownedBy id) ∨
    ∃ owner ∈ handles s.held, s'.world.adapters.size = s.world.adapters.size + 1 ∧
      ∀ id, s'.world.ownedBy id =
        if owner = id then s.world.adapters.size :: s.world.ownedBy id else s.world.ownedBy id
  held : ∀ id ∈ handles s'.held, s.world.Reaches s.held id ∨
    (s.world.adapters.size ≤ id ∧ id < s'.world.adapters.size)

/-- Ownership is a forest, and what is held was made. -/
structure Sound (s : Scene) : Prop where
  forest : s.world.Forest
  made : ∀ id ∈ handles s.held, id < s.world.adapters.size

/-- In a sound scene, whatever is reached was made. -/
theorem Sound.made_of_reaches {s : Scene} (h : s.Sound) {id : Nat}
    (reached : s.world.Reaches s.held id) : id < s.world.adapters.size := by
  rcases reaches_iff.1 reached with held | ⟨owner, _, owns⟩
  · exact h.made id held
  · exact h.forest.made owner id owns

namespace Effect
variable {s s' : Scene}

/-- Building stores nothing, so ownership stays; what is held then was reached or is new. -/
theorem of_builds {w w' : World} {held held' : List Value} (builds : Builds w w')
    (less : ∀ id ∈ handles held', w.Reaches held id ∨
      (w.adapters.size ≤ id ∧ id < w'.adapters.size)) : Effect ⟨w, held⟩ ⟨w', held'⟩ where
  made := builds.made
  owned := .inl fun id => ownedBy_congr (builds.caches id)
  held := less

theorem of_builds_same {w w' : World} {held : List Value} (builds : Builds w w') :
    Effect ⟨w, held⟩ ⟨w', held⟩ :=
  of_builds builds fun _ old => .inl (.of_held old)

/-- A value that was made for whoever asked is all that is new. -/
theorem of_gives {w x : World} {held : List Value} {factory : Factory} {v : Value}
    (gives : Gives w factory x v) : Effect ⟨w, held⟩ ⟨x, v :: held⟩ := by
  refine of_builds gives.builds ?_
  intro id mem
  rw [handles, List.flatMap_cons, List.mem_append] at mem
  rcases mem with new | old
  · right
    rcases gives.fresh with nothing | ⟨one, size⟩
    · rw [nothing] at new
      cases new
    · rw [one, List.mem_singleton] at new
      omega
  · exact .inl (.of_held old)

/-- A reading gives what its adapter owns, or what it makes and from then on owns. -/
theorem of_reads {w w' : World} {held : List Value} {a : Adapter} {outcome : Outcome}
    (made : a.id < w.adapters.size) (holds : a.id ∈ handles held)
    (reads : Reads w a w' outcome) : Effect ⟨w, held⟩ ⟨w', outcome.values ++ held⟩ := by
  cases reads with
  | quiet free =>
    refine of_builds (.of_adapters_eq rfl) ?_
    rw [handles_append, free]
    exact fun id old => .inl (.of_held old)
  | @hit key v kept =>
    refine of_builds (.of_adapters_eq rfl) ?_
    intro id mem
    rw [handles_append, List.mem_append] at mem
    rcases mem with inside | old
    · rw [Outcome.values, handles, List.flatMap_singleton] at inside
      exact .inl ((Reaches.of_held holds).owned (owns_of_cached kept inside))
    · exact .inl (.of_held old)
  | @stored key x v gives =>
    have before : Effect ⟨w, held⟩ ⟨x, v :: held⟩ := of_gives gives
    have size : (x.store a key v).adapters.size = x.adapters.size := Array.size_modify
    refine ⟨?_, ?_, ?_⟩
    · show w.adapters.size ≤ (x.store a key v).adapters.size
      rw [size]
      exact before.made
    · have same (id : Nat) : x.ownedBy id = w.ownedBy id := ownedBy_congr (gives.builds.caches id)
      show (∀ id, (x.store a key v).ownedBy id = _) ∨ _
      simp only [ownedBy_store, same]
      rcases gives.fresh with nothing | ⟨one, more⟩
      · left
        intro id
        rw [nothing, List.nil_append, ite_self]
      · refine .inr ⟨a.id, holds, size.trans more, ?_⟩
        intro id
        rw [one, List.singleton_append]
        by_cases here : a.id = id
        · rw [if_pos here, if_pos ⟨here, by omega⟩]
        · rw [if_neg here, if_neg fun both => here both.1]
    · show ∀ id ∈ handles (v :: held), _
      rw [size]
      exact before.held

/-- Ownership as a relation: at most one edge is new, from a holder to a new adapter. -/
theorem owns_cases (h : Effect s s') :
    (∀ owner id, s'.world.Owns owner id ↔ s.world.Owns owner id) ∨
    ∃ holder ∈ handles s.held, s'.world.adapters.size = s.world.adapters.size + 1 ∧
      ∀ owner id, s'.world.Owns owner id ↔
        s.world.Owns owner id ∨ (owner = holder ∧ id = s.world.adapters.size) := by
  rcases h.owned with same | ⟨holder, holds, more, owned⟩
  · left
    intro owner id
    rw [Owns, same, Owns]
  · refine .inr ⟨holder, holds, more, ?_⟩
    intro owner id
    rw [Owns, owned, Owns]
    by_cases here : holder = owner
    · rw [if_pos here, List.mem_cons, or_comm, and_iff_right here.symm]
    · rw [if_neg here]
      exact (or_iff_left fun both => here both.1.symm).symm

/-- The new edge leads to an adapter that nobody owns, and comes from one that was made. -/
theorem forest (h : Effect s s') (before : s.Sound) : s'.world.Forest := by
  have old {owner id : Nat} (owns : s.world.Owns owner id) : id < s.world.adapters.size :=
    before.forest.made owner id owns
  have once : ∀ owner, (s'.world.ownedBy owner).Nodup := by
    intro owner
    rcases h.owned with same | ⟨holder, _, _, owned⟩
    · rw [same]
      exact before.forest.once owner
    · rw [owned]
      split
      · refine List.nodup_cons.2 ⟨?_, before.forest.once owner⟩
        intro mem
        exact Nat.lt_irrefl _ (old mem)
      · exact before.forest.once owner
  rcases h.owns_cases with same | ⟨holder, holds, more, owns_iff⟩
  · refine ⟨?_, ?_, once, ?_⟩
    · intro owner id owns
      exact Nat.lt_of_lt_of_le (old ((same owner id).1 owns)) h.made
    · intro owner id owns
      exact before.forest.older owner id ((same owner id).1 owns)
    · intro owner other id owns owns'
      exact before.forest.unique owner other id ((same owner id).1 owns) ((same other id).1 owns')
  · refine ⟨?_, ?_, once, ?_⟩
    · intro owner id owns
      rcases (owns_iff owner id).1 owns with earlier | ⟨_, rfl⟩
      · exact Nat.lt_of_lt_of_le (old earlier) h.made
      · omega
    · intro owner id owns
      rcases (owns_iff owner id).1 owns with earlier | ⟨rfl, rfl⟩
      · exact before.forest.older owner id earlier
      · exact before.made owner holds
    · intro owner other id owns owns'
      rcases (owns_iff owner id).1 owns with earlier | ⟨first, new⟩
      · rcases (owns_iff other id).1 owns' with earlier' | ⟨_, new⟩
        · exact before.forest.unique owner other id earlier earlier'
        · have made := old earlier
          omega
      · rcases (owns_iff other id).1 owns' with earlier' | ⟨second, _⟩
        · have made := old earlier'
          omega
        · rw [first, second]

/-- A scene stays sound under the effect of a move. -/
theorem sound (h : Effect s s') (before : s.Sound) : s'.Sound := by
  refine ⟨h.forest before, ?_⟩
  intro id mem
  rcases h.held id mem with reached | ⟨_, new⟩
  · exact Nat.lt_of_lt_of_le (before.made_of_reaches reached) h.made
  · exact new

/-- What is reached was reached before, or is new. -/
theorem reaches (h : Effect s s') (before : s.Sound) {id : Nat}
    (reached : s'.world.Reaches s'.held id) :
    s.world.Reaches s.held id ∨ s.world.adapters.size ≤ id := by
  obtain ⟨root, held, path⟩ := reached
  have start : s.world.Reaches s.held root ∨ s.world.adapters.size ≤ root :=
    (h.held root held).imp_right And.left
  induction path with
  | refl => exact start
  | @tail owner id _ owns ih =>
    have younger : owner < id := (h.forest before).older owner id owns
    rcases ih with reached | new
    · rcases h.owns_cases with same | ⟨_, _, _, owns_iff⟩
      · exact .inl (reached.owned ((same owner id).1 owns))
      · rcases (owns_iff owner id).1 owns with earlier | ⟨_, rfl⟩
        · exact .inl (reached.owned earlier)
        · exact .inr (Nat.le_refl _)
    · exact .inr (Nat.le_trans new (Nat.le_of_lt younger))

end Effect

/-- Every move from a sound scene has such an effect. -/
theorem Move.effect {s s' : Scene} (move : Move s s') (before : s.Sound) : Effect s s' := by
  cases move with
  | tree w held n t => exact .of_builds_same (.of_adapters_eq rfl)
  | @read w w' held a m outcome holds read =>
    have reads := w.reads_read a m
    rw [read] at reads
    exact .of_reads (before.made a.id holds) holds reads
  | adapt discreet built => exact .of_gives (.of_adapt built)
  | object given =>
    have gives : Gives _ default _ _ := .of_adaptObject given
    exact .of_gives gives
  | collect w held discreet element resources => exact .of_gives (.children element resources)
  | hasNext w held c => exact .of_builds_same (.hasNext w c)
  | @next w w' c entry held taken =>
    cases entry with
    | none =>
      obtain rfl := eq_of_next_none taken
      exact .of_builds_same (.of_adapters_eq rfl)
    | some v =>
      have effect : Effect ⟨w.setCursor c.id (w.cursor c.id).take.1, held⟩ ⟨w', v :: held⟩ :=
        .of_gives (.of_next taken)
      exact ⟨effect.made, effect.owned, effect.held⟩
  | service w held a b => exact .of_builds_same (.serviceFor w a b)
  | call w held a id method args => exact .of_builds_same (.callService w a id method args)
  | keep w less => exact .of_builds (.of_adapters_eq rfl) fun id mem => .inl (.of_held (less mem))
  | @upgrade w held a alive =>
    refine .of_builds (.of_adapters_eq rfl) ?_
    intro id mem
    rw [handles, List.flatMap_cons, List.mem_append] at mem
    rcases mem with self | old
    · rw [List.mem_singleton.1 self]
      exact .inl ((isAlive_iff_reaches before.forest.made).1 alive)
    · exact .inl (.of_held old)

/-! ## Where what a cache holds comes from -/

/-- An entry of a cache after a reading was there before, or it holds the answer of that reading and
the adapters that were made for it. -/
theorem entries_of_reads {w w' : World} {a : Adapter} {outcome : Outcome}
    (reads : Reads w a w' outcome) {id : Nat} {entry : String × Value}
    (kept : entry ∈ (w'.adapter id).cache) :
    entry ∈ (w.adapter id).cache ∨ (a.id = id ∧ outcome = .ok entry.2 ∧
      ∀ made ∈ entry.2.heldAdapters, w.adapters.size ≤ made ∧ made < w'.adapters.size) := by
  cases reads with
  | quiet _ => exact .inl kept
  | hit _ => exact .inl kept
  | @stored key x v gives =>
    have caches := gives.builds.caches id
    rw [adapter_store] at kept
    split at kept
    · next here =>
      rw [caches] at kept
      rcases List.mem_cons.1 kept with rfl | old
      · refine .inr ⟨here.1, rfl, ?_⟩
        intro made mem
        have size : (x.store a key v).adapters.size = x.adapters.size := Array.size_modify
        rcases gives.fresh with nothing | ⟨one, more⟩
        · rw [nothing] at mem
          cases mem
        · rw [one, List.mem_singleton] at mem
          omega
      · exact .inl old
    · rw [caches] at kept
      exact .inl kept

/-- Only readings write to caches. -/
theorem Move.builds_or_read {s s' : Scene} (move : Move s s') :
    Builds s.world s'.world ∨ ∃ a m outcome, s.world.read a m = (s'.world, outcome) ∧
      s'.held = outcome.values ++ s.held := by
  cases move with
  | tree w held n t => exact .inl (.of_adapters_eq rfl)
  | @read w w' held a m outcome _ read => exact .inr ⟨a, m, outcome, read, rfl⟩
  | adapt _ built => exact .inl (Gives.of_adapt built).builds
  | object given => exact .inl (.of_makes (.adaptObject given))
  | collect w held _ element resources => exact .inl (Gives.children element resources).builds
  | hasNext w held c => exact .inl (.hasNext w c)
  | @next w w' c entry held taken =>
    have builds := Builds.next w c
    rw [taken] at builds
    exact .inl builds
  | service w held a b => exact .inl (.serviceFor w a b)
  | call w held a id method args => exact .inl (.callService w a id method args)
  | keep w less => exact .inl (.of_adapters_eq rfl)
  | upgrade alive => exact .inl (.of_adapters_eq rfl)

/-- On the way to `s` a reading answered the value and put the entry into the cache of the adapter,
and every adapter in it was made by that reading. -/
def StoredBy (start s : Scene) (id : Nat) (entry : String × Value) : Prop :=
  ∃ before after a m, a.id = id ∧ Leads start before ∧
    before.world.read a m = (after, .ok entry.2) ∧
    entry ∉ (before.world.adapter id).cache ∧ entry ∈ (after.adapter id).cache ∧
    Leads ⟨after, entry.2 :: before.held⟩ s ∧
    ∀ made ∈ entry.2.heldAdapters,
      before.world.adapters.size ≤ made ∧ made < after.adapters.size

theorem StoredBy.tail {start s s' : Scene} {id : Nat} {entry : String × Value}
    (h : StoredBy start s id entry) (move : Move s s') : StoredBy start s' id entry := by
  obtain ⟨before, after, a, m, same, first, read, absent, kept, rest, fresh⟩ := h
  exact ⟨before, after, a, m, same, first, read, absent, kept, rest.tail move, fresh⟩

/-- Every entry of a cache was there at the start or was stored on the way. -/
theorem Leads.entries {start s : Scene} (leads : Leads start s) {id : Nat} {entry : String × Value}
    (kept : entry ∈ (s.world.adapter id).cache) :
    entry ∈ (start.world.adapter id).cache ∨ StoredBy start s id entry := by
  induction leads with
  | refl => exact .inl kept
  | @tail middle last before move ih =>
    by_cases old : entry ∈ (middle.world.adapter id).cache
    · exact (ih old).imp_right (·.tail move)
    · rcases move.builds_or_read with builds | ⟨a, m, outcome, read, held⟩
      · rw [builds.caches] at kept
        exact absurd kept old
      · have reads := middle.world.reads_read a m
        rw [read] at reads
        obtain ⟨same, rfl, fresh⟩ := (entries_of_reads reads kept).resolve_left old
        obtain ⟨world, values⟩ := last
        obtain rfl : values = entry.2 :: middle.held := held
        exact .inr ⟨middle, world, a, m, same, before, read, old, kept, .refl, fresh⟩

theorem Leads.sound {s s' : Scene} (leads : Leads s s') (before : s.Sound) : s'.Sound := by
  induction leads with
  | refl => exact before
  | tail _ move ih => exact (move.effect ih).sound ih

/-- What is not reached is never reached again. -/
theorem Leads.not_reaches {s s' : Scene} (leads : Leads s s') (before : s.Sound) {id : Nat}
    (made : id < s.world.adapters.size) (gone : ¬s.world.Reaches s.held id) :
    ¬s'.world.Reaches s'.held id := by
  have kept : id < s'.world.adapters.size ∧ ¬s'.world.Reaches s'.held id := by
    induction leads with
    | refl => exact ⟨made, gone⟩
    | @tail middle last first move ih =>
      have sound : middle.Sound := Leads.sound first before
      have effect : Effect middle last := move.effect sound
      refine ⟨Nat.lt_of_lt_of_le ih.1 effect.made, ?_⟩
      intro reached
      rcases effect.reaches sound reached with earlier | new
      · exact ih.2 earlier
      · exact absurd ih.1 (Nat.not_lt.2 new)
  exact kept.2

/-- A world of trees with nothing held is sound. -/
theorem sound_ofTrees (trees : List Tree) : Sound ⟨.ofTrees trees, []⟩ where
  forest := forest_ofTrees trees
  made := fun _ held => by cases held

/-- Wherever moves lead from the trees alone, with services that keep no adapter. Every adapter in a
cache was made by the reading that was kept there, and what a collection delivers was not there
before. Ownership is a forest and has no cycle. Calls are moves. What counts as in use by handles
and by caches of what is in use is exactly what is reached, so an adapter that no handle reaches is
gone: it is not got back, then or later. -/
theorem ownership_forest {trees : List Tree} {s : Scene} (leads : Leads ⟨.ofTrees trees, []⟩ s) :
    (∀ id, ∀ entry ∈ (s.world.adapter id).cache, StoredBy ⟨.ofTrees trees, []⟩ s id entry) ∧
    (∀ c w v, s.world.next c = (w, some v) → ∀ made ∈ v.heldAdapters,
      s.world.adapters.size ≤ made) ∧
    s.world.Discreet ∧
    s.world.Forest ∧
    (∀ id, ¬TransGen s.world.Owns id id) ∧
    (∀ depth a name args w outcome, a.id ∈ handles s.held → handles args ⊆ handles s.held →
      dispatch depth s.world a name args = some (w, outcome) →
      Leads s ⟨w, outcome.values ++ s.held⟩) ∧
    (∀ used, s.world.Counted s.held used ↔ ∀ id, used id ↔ s.world.Reaches s.held id) ∧
    ∀ a : Adapter, (s.world.isAlive s.held a = true ↔ s.world.Reaches s.held a.id) ∧
      (a.id < s.world.adapters.size → ¬s.world.Reaches s.held a.id →
        ∀ later, Leads s later → later.world.isAlive later.held a = false) := by
  have sound : s.Sound := leads.sound (sound_ofTrees trees)
  have discreet : s.world.Discreet := leads.discreet (discreet_ofTrees trees)
  refine ⟨?_, ?_, discreet, sound.forest, sound.forest.acyclic, ?_, ?_, ?_⟩
  · intro id entry kept
    refine (leads.entries kept).resolve_left fun old => ?_
    cases old
  · intro c w v taken made mem
    rcases (Gives.of_next taken).fresh with nothing | ⟨one, _⟩
    · rw [nothing] at mem
      cases mem
    · rw [one, List.mem_singleton] at mem
      exact Nat.le_of_eq mem.symm
  · intro depth a name args w outcome holds given called
    exact .of_dispatch discreet holds given called
  · intro used
    exact counted_iff_reaches sound.forest.older
  · intro a
    refine ⟨isAlive_iff_reaches sound.forest.made, ?_⟩
    intro made gone later rest
    have sound' : later.Sound := rest.sound sound
    rw [Bool.eq_false_iff, ne_eq, isAlive_iff_reaches sound'.forest.made]
    exact rest.not_reaches sound made gone

/-- A page refers to itself, and is asked for that through its service: the answer is a second page,
which the cache of the first one holds. With the last handle both are gone. -/
theorem ownership_forest_self :
    let self : Method := ⟨"getSelf", [], some (.adapter "Page"), some (.reference ⟨"."⟩), ""⟩
    let ask : Method := ⟨"ask", [.string], some (.adapter "Page"), none, ""⟩
    let page : Declaration := ⟨"Page", [], [self, ask], [⟨"Page", none, none, some "delegate"⟩]⟩
    let f : Factory := { (default : Factory) with
      registry := (Registry.ofDeclarations [page]).toOption.getD Registry.empty
      services := ⟨NameMap.empty.insert "delegate" .delegate, none⟩ }
    f.Discreet ∧ ∃ w, Leads ⟨.ofTrees [Tree.empty], []⟩ ⟨w, []⟩ ∧ w.Owns 0 1 ∧
      ∀ a : Adapter, a.id < 2 → ∀ later, Leads ⟨w, []⟩ later →
        later.world.isAlive later.held a = false := by
  intro self ask page f
  have discreet : f.Discreet := by
    intro search b s found
    obtain ⟨name, has⟩ := ServiceDirectory.exists_get?_of_resolve rfl found
    rw [NameMap.get?_insert] at has
    split at has
    · cases has
      exact Service.discreet_delegate
    · cases has
  refine ⟨discreet, ?_⟩
  have outcome :
      (((ofTrees [Tree.empty]).adapt f ⟨0, Path.root⟩ "Page").toOption.bind fun built =>
        (dispatch 2 built.1 built.2 "ask" [.string "getSelf"]).map fun asked =>
          (asked.1.ownedBy 0, asked.1.adapters.size)) = some ([1], 2) := by
    decide +kernel
  obtain ⟨⟨u, a⟩, found, rest⟩ := Option.bind_eq_some_iff.1 outcome
  obtain ⟨⟨w, o⟩, asked, eq⟩ := Option.map_eq_some_iff.1 rest
  obtain ⟨owned, size⟩ := Prod.mk.inj eq
  have built : Leads ⟨.ofTrees [Tree.empty], []⟩ ⟨u, [.adapter a]⟩ :=
    .single (.adapt discreet (toOption_eq_some.1 found))
  have here : a.id ∈ handles [Value.adapter a] := List.mem_singleton_self a.id
  obtain ⟨_, _, _, _, _, calls, _, _⟩ := ownership_forest built
  have answered : Leads ⟨u, [.adapter a]⟩ ⟨w, o.values ++ [.adapter a]⟩ :=
    calls 2 a "ask" [.string "getSelf"] w o here (List.nil_subset _) asked
  have gone : Leads ⟨.ofTrees [Tree.empty], []⟩ ⟨w, []⟩ :=
    Leads.keep (built.trans answered) (List.nil_subset _)
  obtain ⟨_, _, _, _, _, _, _, alive⟩ := ownership_forest gone
  refine ⟨w, gone, ?_, ?_⟩
  · rw [Owns, owned]
    exact List.mem_singleton_self 1
  · intro b made
    have made' : b.id < w.adapters.size := by
      rw [size]
      exact made
    refine (alive b).2 made' ?_
    rintro ⟨root, held, _⟩
    cases held

end Scene
end TreeAdapter
