import TreeAdapter.Proofs.World.Course
import TreeAdapter.Proofs.World.Handles

/-!
# Scenes

A scene is a world with the values that are held outside of it: by a client, and by calls that are
under way. Its moves are the smallest things that anyone does with adapters and collections, among
them letting go of values and getting an adapter back that still lives. Where services are discreet
every call is made of such moves (`Leads.of_dispatch`), so what each move keeps holds at every
moment, in the middle of calls too.
-/

namespace TreeAdapter
set_option autoImplicit false

theorem Cursor.factory_peek (c : Cursor) : c.peek.1.factory = c.factory := by
  unfold peek
  split <;> rfl

namespace World.Discreet
variable {w : World}

theorem store (h : w.Discreet) (a : Adapter) (key : String) (v : Value) :
    (w.store a key v).Discreet := by
  refine ⟨?_, h.cursors, h.services⟩
  intro id
  rw [adapter_store]
  split <;> exact h.adapters id

theorem setCursor (h : w.Discreet) {id : Nat} {c : Cursor}
    (same : c.factory = (w.cursor id).factory) : (w.setCursor id c).Discreet := by
  refine ⟨h.adapters, ?_, h.services⟩
  intro other
  rw [cursor_setCursor]
  split
  · rw [same]
    exact h.cursors id
  · exact h.cursors other

/-- A reading keeps a world discreet: what it makes has the factory of the adapter that is read. -/
theorem reads {a : Adapter} {w' : World} {outcome : Outcome} (h : w.Discreet)
    (reads : w.Reads a w' outcome) : w'.Discreet := by
  cases reads with
  | quiet _ => exact h
  | hit _ => exact h
  | stored gives => exact (gives.discreet h (h.adapters a.id)).store a _ _

/-- Taking an element keeps a world discreet: what is made has the factory of the collection. -/
theorem next (h : w.Discreet) (c : Children) : (w.next c).1.Discreet := by
  have taken : (w.setCursor c.id (w.cursor c.id).take.1).Discreet :=
    h.setCursor (Cursor.factory_take _)
  rcases next : w.next c with ⟨u, entry⟩
  cases entry with
  | none =>
    obtain rfl := eq_of_next_none next
    exact taken
  | some v => exact (Gives.of_next next).discreet taken (h.cursors c.id)

theorem newService (h : w.Discreet) (a : Adapter) (interface : String) {service : Service}
    (discreet : service.Discreet) : (w.newService a interface service).1.Discreet := by
  refine ⟨?_, h.cursors, ?_⟩
  · intro id
    rw [World.newService, adapter_modify { w with services := w.services.push ⟨service, 0⟩ }]
    split <;> exact h.adapters id
  · intro id s found
    rw [World.newService, Array.getElem?_push] at found
    split at found
    · cases found
      exact discreet
    · exact h.services id s found

/-- A service that is found is one of a discreet factory. -/
theorem serviceFor (h : w.Discreet) (a : Adapter) (b : ServiceBinding) :
    (w.serviceFor a b).1.Discreet := by
  have counted : w.countSearch.Discreet := ⟨h.adapters, h.cursors, h.services⟩
  rcases serviceFor_cases w a b with ⟨id, _, eq⟩ | ⟨_, e, _, eq⟩ | ⟨_, s, found, eq⟩
  · rw [eq]
    exact h
  · rw [eq]
    exact counted
  · rw [eq]
    exact counted.newService a b.service (h.adapters a.id _ _ _ found)

theorem callService (h : w.Discreet) (a : Adapter) (id : Nat) (method : String)
    (args : List Value) : (w.callService a id method args).1.Discreet := by
  unfold World.callService
  split
  · exact h
  · next s found =>
    refine ⟨h.adapters, h.cursors, ?_⟩
    intro other t at_other
    rw [Array.getElem?_setIfInBounds] at at_other
    split at at_other
    · split at at_other
      · cases at_other
        exact h.services id s found
      · cases at_other
    · exact h.services other t at_other

/-- A service has what it is called with. -/
theorem staysWithin_callService (h : w.Discreet) (a : Adapter) (id : Nat) (method : String)
    (args : List Value) :
    (w.callService a id method args).2.StaysWithin (a.id :: handles args) := by
  unfold World.callService
  split
  · exact List.nil_subset _
  · next s found => exact h.services id s found _

end World.Discreet

/-- A world, and the values that are held outside of it. -/
structure Scene where
  world : World
  held : List Value

namespace Scene

/-- The smallest things that are done. -/
inductive Move : Scene → Scene → Prop where
  /-- A tree is replaced by any other. -/
  | tree (w : World) (held : List Value) (n : Nat) (t : Tree) :
      Move ⟨w, held⟩ ⟨w.setTree n t, held⟩
  /-- An adapter that is held answers from its cache or from the trees. -/
  | read {w w' : World} {held : List Value} {a : Adapter} {m : Method} {outcome : Outcome}
      (holds : a.id ∈ handles held) (read : w.read a m = (w', outcome)) :
      Move ⟨w, held⟩ ⟨w', outcome.values ++ held⟩
  | adapt {w w' : World} {held : List Value} {factory : Factory} {r : Resource}
      {interface : String} {a : Adapter} (discreet : factory.Discreet)
      (built : w.adapt factory r interface = .ok (w', a)) : Move ⟨w, held⟩ ⟨w', .adapter a :: held⟩
  | object {w w' : World} {held : List Value} {r : Resource} {target : String} {o : TreeObject}
      (given : w.adaptObject r target = some (w', o)) : Move ⟨w, held⟩ ⟨w', .object o :: held⟩
  /-- A client lists resources of its own. -/
  | collect (w : World) (held : List Value) {factory : Factory} (discreet : factory.Discreet)
      (element : DeclaredType) (resources : List (Option Resource)) :
      Move ⟨w, held⟩ ⟨(w.newChildren factory element resources).1,
        .children (w.newChildren factory element resources).2 :: held⟩
  | hasNext (w : World) (held : List Value) (c : Children) : Move ⟨w, held⟩ ⟨(w.hasNext c).1, held⟩
  | next {w w' : World} {c : Children} {entry : Option Value} (held : List Value)
      (taken : w.next c = (w', entry)) : Move ⟨w, held⟩ ⟨w', entry.toList ++ held⟩
  | service (w : World) (held : List Value) (a : Adapter) (b : ServiceBinding) :
      Move ⟨w, held⟩ ⟨(w.serviceFor a b).1, held⟩
  | call (w : World) (held : List Value) (a : Adapter) (id : Nat) (method : String)
      (args : List Value) : Move ⟨w, held⟩ ⟨(w.callService a id method args).1, held⟩
  /-- Values are copied, unpacked and let go. -/
  | keep (w : World) {held kept : List Value} (less : handles kept ⊆ handles held) :
      Move ⟨w, held⟩ ⟨w, kept⟩
  /-- A weak handle to an adapter that lives gives the adapter. -/
  | upgrade {w : World} {held : List Value} {a : Adapter} (alive : w.isAlive held a = true) :
      Move ⟨w, held⟩ ⟨w, .adapter a :: held⟩

/-- Moves one after the other. -/
abbrev Leads : Scene → Scene → Prop :=
  Relation.ReflTransGen Move

/-- Every move keeps a world discreet. -/
theorem Move.discreet {s s' : Scene} (move : Move s s') (h : s.world.Discreet) :
    s'.world.Discreet := by
  cases move with
  | tree w held n t => exact ⟨h.adapters, h.cursors, h.services⟩
  | @read w w' held a m outcome _ read =>
    have reads := w.reads_read a m
    rw [read] at reads
    exact h.reads reads
  | adapt discreet built => exact (World.Gives.of_adapt built).discreet h discreet
  | object given => exact (World.Gives.of_adaptObject given).discreet h Factory.discreet_default
  | collect w held discreet element resources =>
    exact (World.Gives.children element resources).discreet h discreet
  | hasNext w held c => exact h.setCursor (Cursor.factory_peek _)
  | @next w w' c entry held taken =>
    have discreet := h.next c
    rw [taken] at discreet
    exact discreet
  | service w held a b => exact h.serviceFor a b
  | call w held a id method args => exact h.callService a id method args
  | keep w less => exact h
  | upgrade alive => exact h

namespace Leads
variable {w w' : World} {held : List Value}

/-- A world stays discreet wherever moves lead. -/
theorem discreet {s s' : Scene} (leads : Leads s s') (h : s.world.Discreet) :
    s'.world.Discreet := by
  induction leads with
  | refl => exact h
  | tail _ move ih => exact move.discreet ih

/-- What is not needed any more is let go. -/
theorem keep {s : Scene} {more kept : List Value} (leads : Leads s ⟨w, more⟩)
    (less : handles kept ⊆ handles more) : Leads s ⟨w, kept⟩ :=
  leads.tail (.keep w less)

/-- A reading of an adapter that is held leads to the world after it, with the answer held as well.
-/
theorem of_read {a : Adapter} (holds : a.id ∈ handles held) (m : Method) :
    Leads ⟨w, held⟩ ⟨(w.read a m).1, (w.read a m).2.values ++ held⟩ :=
  .single (.read holds rfl)

/-- A description of an adapter that is held leads to the world after it, with nothing more held. -/
theorem of_entries {a : Adapter} (holds : a.id ∈ handles held) (methods : List Method) :
    Leads ⟨w, held⟩ ⟨(w.entries a methods).1, held⟩ := by
  induction methods generalizing w with
  | nil => exact .refl
  | cons m rest ih =>
    have first : Leads ⟨w, held⟩ ⟨(w.readNamed a m.name).1, held⟩ := by
      unfold World.readNamed
      split
      · exact .refl
      · refine (of_read holds _).keep ?_
        rw [handles_append]
        exact List.subset_append_right _ _
    exact first.trans ih

/-- A script leads where the calls lead that it makes, and keeps none of their outcomes. -/
theorem of_play
    {invoke : World → Adapter → String → List Value → Option (World × Outcome)}
    (nested : ∀ {w w' : World} {held : List Value} {a : Adapter} {name : String}
      {args : List Value} {outcome : Outcome}, w.Discreet → a.id ∈ handles held →
      handles args ⊆ handles held → invoke w a name args = some (w', outcome) →
      Leads ⟨w, held⟩ ⟨w', outcome.values ++ held⟩)
    {script : Script} {known : List Nat} {outcome : Outcome} (h : w.Discreet)
    (within : script.StaysWithin known) (has : known ⊆ handles held)
    (played : World.play invoke script w = some (w', outcome)) :
    Leads ⟨w, held⟩ ⟨w', outcome.values ++ held⟩ := by
  induction script generalizing w held known with
  | answer o =>
    cases played
    refine .single (.keep _ ?_)
    rw [handles_append]
    exact List.append_subset.2 ⟨List.Subset.trans within has, List.Subset.refl _⟩
  | invoke a method args next ih =>
    obtain ⟨adapter, arguments, later⟩ := within
    rw [World.play] at played
    split at played
    · cases played
    · next u o called =>
      have first : Leads ⟨w, held⟩ ⟨u, o.values ++ held⟩ :=
        nested h (has adapter) (List.Subset.trans arguments has) called
      have known' : handles o.values ++ known ⊆ handles (o.values ++ held) := by
        rw [handles_append]
        refine List.append_subset.2 ⟨List.subset_append_left _ _, ?_⟩
        exact List.Subset.trans has (List.subset_append_right _ _)
      have rest := ih o (first.discreet h) (later o) known' played
      refine Leads.keep (first.trans rest) ?_
      simp only [handles_append]
      refine List.append_subset.2 ⟨List.subset_append_left _ _, ?_⟩
      exact List.Subset.trans (List.subset_append_right _ _) (List.subset_append_right _ _)

/-- A comparison answers with nothing to hold on to. -/
theorem handles_equalsAnswer (a : Adapter) (args : List Value) :
    handles (World.equalsAnswer a args).values = [] := by
  unfold World.equalsAnswer
  split <;> rfl

/-- Every call of an adapter that is held, with arguments that are held, is made of moves, however
services call back, and its outcome is held behind it. -/
theorem of_dispatch {depth : Nat} {a : Adapter} {name : String} {args : List Value}
    {outcome : Outcome} (h : w.Discreet) (holds : a.id ∈ handles held)
    (given : handles args ⊆ handles held)
    (called : World.dispatch depth w a name args = some (w', outcome)) :
    Leads ⟨w, held⟩ ⟨w', outcome.values ++ held⟩ := by
  induction depth generalizing w w' held a name args outcome with
  | zero => cases called
  | succ depth ih =>
    rw [World.dispatch] at called
    split at called
    · cases called
      exact .refl
    · next m found =>
      split at called
      · cases called
        exact (of_entries holds _).keep (List.Subset.refl _)
      · cases called
        exact Leads.keep .refl (List.Subset.refl _)
      · cases called
        refine Leads.keep .refl ?_
        rw [handles_append, handles_equalsAnswer]
        exact List.Subset.refl _
      · unfold World.forward at called
        split at called
        · cases called
          exact .refl
        · next b bound =>
          have found : Leads ⟨w, held⟩ ⟨(w.serviceFor a b).1, held⟩ := .single (.service w held a b)
          split at called
          · next u e failed =>
            cases called
            rw [failed] at found
            exact found
          · next u id served =>
            rw [served] at found
            have discreet : u.Discreet := found.discreet h
            have reached : Leads ⟨u, held⟩ ⟨(u.callService a id m.name args).1, held⟩ :=
              .single (.call u held a id m.name args)
            have known : a.id :: handles args ⊆ handles held := List.cons_subset.2 ⟨holds, given⟩
            have played := of_play ih (discreet.callService a id m.name args)
              (discreet.staysWithin_callService a id m.name args) known called
            exact (found.trans reached).trans played
      · have read : w.read a m = (w', outcome) := Option.some.inj called
        have leads := of_read (w := w) holds m
        rw [read] at leads
        exact leads

end Leads

end Scene
end TreeAdapter
