import TreeAdapter.Proofs.World.Listing
import TreeAdapter.Proofs.World.Run
import TreeAdapter.World.Predicates

/-!
# Child collections

All handles of a collection share one cursor, and the cursor holds the resources that were listed
when `get_children` made the collection (`Lists`). `Pending` says which of them are still to come: a
step takes the first of them away when it is a `next` on that collection, and does nothing to them
otherwise, a `has_next` among it (`Pending.step`), so what is left after a course follows from how
often it takes.

* `children_delivered` — a getter of children makes a collection once, and the collection delivers
  what was listed then, each element once and in order
-/

namespace TreeAdapter
set_option autoImplicit false

/-! ## Cursors -/

namespace Cursor

/-- The entries that a cursor has still to deliver. -/
inductive Holds (f : Factory) : Cursor → List (Option Resource) → Prop where
  | unseen (entries : List (Option Resource)) : Holds f ⟨f, none, entries⟩ entries
  | seen (entry : Option Resource) (rest : List (Option Resource)) :
      Holds f ⟨f, some (some entry), rest⟩ (entry :: rest)
  | ended : Holds f ⟨f, some none, []⟩ []

namespace Holds
variable {f : Factory} {c : Cursor} {entries : List (Option Resource)}

/-- The entries of a cursor are adapted by the factory of its collection. -/
theorem factory_eq (h : Holds f c entries) : c.factory = f := by
  cases h <;> rfl

/-- A look ahead takes nothing away. -/
theorem peek (h : Holds f c entries) : Holds f c.peek.1 entries := by
  cases h with
  | unseen =>
    cases entries with
    | nil => exact .ended
    | cons entry rest => exact .seen entry rest
  | seen entry rest => exact .seen entry rest
  | ended => exact .ended

/-- A look ahead tells whether there is an entry left. -/
theorem peek_snd (h : Holds f c entries) : c.peek.2 = entries.head?.isSome := by
  cases h <;> rfl

theorem take (h : Holds f c entries) : Holds f c.take.1 entries.tail := by
  cases h with
  | unseen => exact .unseen entries.tail
  | seen entry rest => exact .unseen rest
  | ended => exact .unseen []

/-- The entry taken is the first one left, if any. -/
theorem take_snd (h : Holds f c entries) : c.take.2 = entries.head? := by
  cases h <;> rfl

end Holds
end Cursor

namespace World

/-! ## What is still to come -/

/-- A collection that has these entries still to deliver. -/
structure Pending (w : World) (f : Factory) (collection : Nat)
    (entries : List (Option Resource)) : Prop where
  made : collection < w.cursors.size
  holds : (w.cursor collection).Holds f entries

/-- A new collection has all its entries to deliver. -/
theorem pending_newChildren (w : World) (f : Factory) (element : DeclaredType)
    (entries : List (Option Resource)) :
    Pending (w.newChildren f element entries).1 f w.cursors.size entries where
  made := by simp [newChildren]
  holds := by
    rw [newChildren, cursor_push, if_pos rfl]
    exact .unseen entries

namespace Pending
variable {w w' : World} {f : Factory} {n : Nat} {entries : List (Option Resource)}

/-- What is made meanwhile leaves the entries to deliver. -/
theorem of_makes (h : Pending w f n entries) (makes : Makes w w') : Pending w' f n entries where
  made := Nat.lt_of_lt_of_le h.made makes.cursors
  holds := by
    rw [makes.cursor n h.made]
    exact h.holds

theorem of_cursors_eq (h : Pending w f n entries) (same : w'.cursors = w.cursors) :
    Pending w' f n entries where
  made := by
    rw [same]
    exact h.made
  holds := by
    rw [cursor_congr same]
    exact h.holds

/-- Setting the cursor of a collection sets the entries that it has to deliver. -/
theorem setCursor (h : Pending w f n entries) {c : Cursor} {left : List (Option Resource)}
    (holds : c.Holds f left) : Pending (w.setCursor n c) f n left where
  made := by simpa [World.setCursor] using h.made
  holds := by
    rw [cursor_setCursor, if_pos ⟨rfl, h.made⟩]
    exact holds

/-- Setting the cursor of another collection does not. -/
theorem setCursor_of_ne (h : Pending w f n entries) {k : Nat} (other : k ≠ n) (c : Cursor) :
    Pending (w.setCursor k c) f n entries where
  made := by simpa [World.setCursor] using h.made
  holds := by
    rw [cursor_setCursor, if_neg fun both => other both.1]
    exact h.holds

/-- Each step leaves what is to come, but for a `next` on that collection. -/
theorem step (h : Pending w f n entries) {d : Deed} (does : Does w d w') :
    Pending w' f n (if d = .takes n then entries.tail else entries) := by
  cases d with
  | quiet =>
    rw [if_neg (by simp)]
    rcases does.quiet_cases with ⟨k, t, rfl⟩ | ⟨x, makes, rfl | ⟨a, key, v, rfl⟩⟩
    · exact h.of_cursors_eq rfl
    · exact h.of_makes makes
    · exact (h.of_makes makes).of_cursors_eq rfl
  | looks =>
    rw [if_neg (by simp)]
    cases does with
    | looks c =>
      by_cases same : c.id = n
      · subst same
        exact h.setCursor h.holds.peek
      · exact h.setCursor_of_ne same _
  | takes =>
    cases does with
    | takes c =>
      by_cases same : c.id = n
      · subst same
        rw [if_pos rfl]
        exact (h.setCursor h.holds.take).of_makes (.next w c)
      · rw [if_neg (by simpa using same)]
        exact (h.setCursor_of_ne same _).of_makes (.next w c)
  | misses =>
    rw [if_neg (by simp)]
    cases does with
    | misses failed => exact h.of_cursors_eq (cursors_of_serviceFor failed)
  | forwards =>
    rw [if_neg (by simp)]
    cases does with
    | forwards served method args =>
      have built := h.of_cursors_eq (cursors_of_serviceFor served)
      exact built.of_cursors_eq (cursors_callService _ _ _ method args)

/-- After a course as many entries are gone as it took. -/
theorem course (h : Pending w f n entries) {ds : List Deed} (course : Course w ds w') :
    Pending w' f n (entries.drop (ds.count (.takes n))) := by
  induction course generalizing entries with
  | nil w => simpa using h
  | @cons w u v d ds step rest ih =>
    have later := ih (h.step step)
    by_cases takes : d = .takes n
    · rw [if_pos takes, List.drop_tail] at later
      rwa [takes, List.count_cons_self]
    · rw [if_neg takes] at later
      rwa [List.count_cons_of_ne takes]

end Pending

/-! ## What a collection answers -/

/-- A change of a cursor does not change what a resource becomes. -/
theorem Materializes.of_setCursor {w : World} {n : Nat} {c : Cursor} {f : Factory} {r : Resource}
    {declared : DeclaredType} {v : Value}
    (h : (w.setCursor n c).Materializes f r declared v) : w.Materializes f r declared v := by
  cases h with
  | handle wanted => exact .handle wanted
  | object other given => exact .object other given
  | adapter other none present fit => exact .adapter other none present fit
  | null other none unfit => exact .null other none unfit

namespace Pending
variable {w : World} {f : Factory} {c : Children} {entries : List (Option Resource)}

/-- A collection says whether it has an entry left. -/
theorem hasNext_snd (h : Pending w f c.id entries) :
    (w.hasNext c).2 = entries.head?.isSome :=
  h.holds.peek_snd

/-- A collection with nothing left delivers nothing. -/
theorem next_of_nil (h : Pending w f c.id []) : (w.next c).2 = none := by
  have entry := h.holds.take_snd
  unfold World.next
  simp only [entry, List.head?_nil]

/-- The first of the resources that are left is delivered as the trees have it now. -/
theorem next_of_cons {r : Resource} (h : Pending w f c.id (some r :: entries)) :
    ∃ v, (w.next c).2 = some v ∧ w.Materializes f r c.element v := by
  have entry := h.holds.take_snd
  have factory := h.holds.take.factory_eq
  unfold World.next
  simp only [entry, List.head?_cons, factory]
  exact ⟨_, rfl, (materializes_materialize _ f r c.element).of_setCursor⟩

/-- An adapter among the elements was built just then. -/
theorem adapt_of_next (h : Pending w f c.id entries) {w' : World} {a : Adapter}
    (taken : w.next c = (w', some (.adapter a))) :
    ∃ (u : World) (r : Resource), u.adapt f r c.element.targetName = .ok (w', a) := by
  have factory := h.holds.take.factory_eq
  unfold World.next at taken
  dsimp only at taken
  split at taken
  · cases taken
  · cases taken
  · next r _ =>
    rw [factory] at taken
    obtain ⟨world, value⟩ := Prod.mk.inj taken
    exact ⟨_, r, adapt_of_materialize (Prod.ext world (Option.some.inj value))⟩

/-- What is left of a listing, of which `taken` were taken, decides the answers. -/
theorem answers {listed : List Resource} {taken : Nat}
    (h : Pending w f c.id ((listed.map some).drop taken)) :
    ((w.hasNext c).2 = true ↔ taken < listed.length) ∧
    (∀ r, listed[taken]? = some r →
      ∃ v, (w.next c).2 = some v ∧ w.Materializes f r c.element v) ∧
    (listed.length ≤ taken → (w.next c).2 = none) := by
  refine ⟨?_, ?_, ?_⟩
  · rw [h.hasNext_snd, List.head?_drop]
    simp
  · intro r next
    have here : (listed.map some).drop taken = some r :: (listed.map some).drop (taken + 1) := by
      obtain ⟨inside, rfl⟩ := List.getElem?_eq_some_iff.1 next
      rw [List.drop_eq_getElem_cons (by simpa using inside), List.getElem_map]
    rw [here] at h
    exact h.next_of_cons
  · intro all
    rw [List.drop_eq_nil_of_le (by simpa using all)] at h
    exact h.next_of_nil

end Pending

/-! ## Getters of children -/

/-- Calls of a name with so many arguments are answered by a getter of children. -/
structure ChildrenGetter (w : World) (a : Adapter) (name : String) (arity : Nat) (m : Method)
    (access : ChildrenAccess) : Prop where
  made : a.id < w.adapters.size
  found : lookup a (w.factoryOf a).settings name arity = .ok m
  metadata : m.accessor = some (.children access)

namespace ChildrenGetter
variable {w v : World} {a : Adapter} {name : String} {arity : Nat} {m : Method}
  {access : ChildrenAccess}

theorem category_eq (h : ChildrenGetter w a name arity m access) (settings : Settings) :
    m.category settings = .childrenGetter := by
  rw [Method.category, h.metadata]

theorem getter (h : ChildrenGetter w a name arity m access) : Getter w a name arity m := by
  refine ⟨h.made, h.found, ?_⟩
  rw [h.category_eq]
  rfl

/-- The address of a getter of children is that of its metadata, whatever the settings. -/
theorem requiredAddress_eq (h : ChildrenGetter w a name arity m access) (settings : Settings) :
    m.requiredAddress settings = .ok (Addressing.children m access) := by
  simp only [Method.requiredAddress, Method.address, h.category_eq, Method.addressFor, h.metadata]
  rfl

/-- With a collection under its key a getter answers that, and nothing changes. -/
theorem calls_iff_of_cached (h : ChildrenGetter v a name arity m access) {value : Value}
    (hit : v.cached a (Addressing.children m access).cacheKey = some value) {u : World}
    {outcome : Outcome} :
    v.Calls a name arity u outcome ↔ u = v ∧ outcome = .ok value := by
  rw [h.getter.calls_iff, h.getter.read_of_cached (h.requiredAddress_eq _) hit, Prod.mk.injEq]
  exact and_congr eq_comm eq_comm

/-- Without one it makes a collection of what the tree lists now, and keeps it. -/
theorem exists_made (h : ChildrenGetter w a name arity m access)
    (free : w.cached a (Addressing.children m access).cacheKey = none) :
    ∃ u c, c.element = access.element ∧
      (∀ u' outcome, w.Calls a name arity u' outcome ↔ u' = u ∧ outcome = .ok (.children c)) ∧
      u.cached a (Addressing.children m access).cacheKey = some (.children c) ∧
      Pending u (w.factoryOf a) c.id
        ((w.listedChildren (w.factoryOf a) a.resource access (Addressing.children m access)).map
          some) := by
  let address := Addressing.children m access
  let listed := w.listedChildren (w.factoryOf a) a.resource access address
  let made := w.newChildren (w.factoryOf a) access.element (listed.map some)
  have read : w.read a m =
      (made.1.store a address.cacheKey (.children made.2), .ok (.children made.2)) := by
    rw [read_eq h.getter.reads, h.requiredAddress_eq]
    simp only [memoized, free, computed, h.category_eq, h.metadata, made, listed, address]
  refine ⟨made.1.store a address.cacheKey (.children made.2), made.2, rfl, ?_, ?_, ?_⟩
  · intro u' outcome
    rw [h.getter.calls_iff, read, Prod.mk.injEq]
    exact and_congr eq_comm eq_comm
  · exact cached_store_self h.made _ _
  · exact (pending_newChildren w _ access.element _).of_cursors_eq rfl

theorem of_run (h : ChildrenGetter w a name arity m access) (run : Run w v) :
    ChildrenGetter v a name arity m access where
  made := (h.getter.of_run run).made
  found := (h.getter.of_run run).found
  metadata := h.metadata

end ChildrenGetter

/-- A getter of children that finds no collection under its key makes one, of the resources that its
accessor lists then. Over every course from there, in which every call is without iteration: the
getters under the key answer this collection and change nothing; it has an element left as long as
fewer were taken than were listed when it was made; the next element is what the next of the listed
resources becomes with the trees as they are now; and when all were taken there is none. What was
taken is counted over all handles, and no look ahead, call or change of a tree counts. -/
theorem children_delivered {w : World} {a : Adapter} {name : String} {arity : Nat} {m : Method}
    {access : ChildrenAccess} (getter : ChildrenGetter w a name arity m access)
    (free : w.cached a (Addressing.children m access).cacheKey = none) :
    let f := w.factoryOf a
    (∀ depth x b method args x' outcome, dispatch depth x b method args = some (x', outcome) →
      ∃ ds, Course x ds x' ∧ ∀ d ∈ ds, d.isIteration = false) ∧
    ∃ listed u c, w.Lists f a.resource access listed ∧ c.element = access.element ∧
      (∀ u' outcome, w.Calls a name arity u' outcome ↔ u' = u ∧ outcome = .ok (.children c)) ∧
      ∀ ds v, Course u ds v →
        let taken := ds.count (.takes c.id)
        (∀ name' arity' n other, ChildrenGetter w a name' arity' n other →
          (Addressing.children n other).cacheKey = (Addressing.children m access).cacheKey →
          ∀ u' outcome, v.Calls a name' arity' u' outcome ↔ u' = v ∧ outcome = .ok (.children c)) ∧
        ((v.hasNext c).2 = true ↔ taken < listed.length) ∧
        (∀ r, listed[taken]? = some r →
          ∃ value, (v.next c).2 = some value ∧ v.Materializes f r access.element value) ∧
        (listed.length ≤ taken → (v.next c).2 = none) := by
  intro f
  refine ⟨?_, ?_⟩
  · intro depth x b method args x' outcome called
    obtain ⟨ds, course, calls, _⟩ := course_of_dispatch called
    exact ⟨ds, course, calls⟩
  obtain ⟨u, c, element, called, hit, pending⟩ := getter.exists_made free
  refine ⟨_, u, c, (lists_iff m).2 rfl, element, called, ?_⟩
  intro ds v course taken
  have whole : Run w v :=
    (run_of_read (getter.getter.calls_iff.1 ((called u _).2 ⟨rfl, rfl⟩))).trans course.run
  refine ⟨?_, element ▸ (pending.course course).answers⟩
  intro name' arity' n other another same u' outcome
  refine (another.of_run whole).calls_iff_of_cached ?_
  rw [same]
  exact course.run.grows.answers a _ _ hit

/-- Below the node `p` are the content node and two pages, of which the second one has a title. The
getter that leaves the content node out delivers the first page, and the getter that asks for a
title the second, also when the tree has lost them all since they were listed, and after any number
of looks ahead. -/
theorem children_delivered_removed :
    let t := ["/p/jcr:content", "/p/x", "/p/y"].foldl
      (fun t p => (Tree.insertNode t p).toOption.getD t) Tree.empty
    let titled := (Tree.setProperty t "/p/y" "title" (.string "Y")).toOption.getD t
    let pages : Method :=
      ⟨"getPages", [], none, some (.children ⟨"p", .resource, .excludeContentNode⟩), "Page"⟩
    let named : Method :=
      ⟨"getNamed", [], none, some (.children ⟨" ./p ", .resource, .named "titled"⟩), "Page"⟩
    let page := Interface.ofDeclaration ⟨"Page", [], [pages, named], []⟩ []
    let f : Factory :=
      { (default : Factory) with predicates := NameMap.empty.insert "titled" (.hasProperty "title") }
    let built := (ofTrees [titled]).newAdapter f page ⟨0, Path.root⟩
    ∀ m access first, (m, access, first) ∈
        [(pages, (⟨"p", .resource, .excludeContentNode⟩ : ChildrenAccess), "/p/x"),
          (named, ⟨" ./p ", .resource, .named "titled"⟩, "/p/y")] →
      ChildrenGetter built.1 built.2 m.name 0 m access ∧
      built.1.cached built.2 (Addressing.children m access).cacheKey = none ∧
      ∃ u c, built.1.Calls built.2 m.name 0 u (.ok (.children c)) ∧
        ∀ ds v, Course (u.setTree 0 Tree.empty) ds v → .takes c.id ∉ ds →
          (v.hasNext c).2 = true ∧
          ∃ r, (v.next c).2 = some (.resource r) ∧ r.path.text = first := by
  intro t titled pages named page f built m access first which
  simp only [List.mem_cons, Prod.mk.injEq, List.not_mem_nil, or_false] at which
  have ⟨found, metadata, element, free, head⟩ : page.method? m.name 0 = some m ∧
      m.accessor = some (.children access) ∧ access.element = .resource ∧
      built.1.cached built.2 (Addressing.children m access).cacheKey = none ∧
      ((built.1.listedChildren (built.1.factoryOf built.2) built.2.resource access
        (Addressing.children m access)).map (·.path.text)).head? = some first := by
    rcases which with ⟨rfl, rfl, rfl⟩ | ⟨rfl, rfl, rfl⟩ <;>
      exact ⟨by decide +kernel, rfl, rfl, by decide +kernel, by decide +kernel⟩
  have getter : ChildrenGetter built.1 built.2 m.name 0 m access :=
    ⟨by decide, lookup_of_method? found, metadata⟩
  refine ⟨getter, free, ?_⟩
  obtain ⟨_, listed, u, c, lists, _, called, delivered⟩ := children_delivered getter free
  rw [← (lists_iff m).1 lists] at head
  refine ⟨u, c, (called u _).2 ⟨rfl, rfl⟩, ?_⟩
  intro ds v course untaken
  obtain ⟨_, more, next, _⟩ := delivered _ v (.cons (.tree u 0 Tree.empty) course)
  rw [List.count_cons_of_ne (by simp), List.count_eq_zero.2 untaken] at more next
  rw [more]
  cases listed with
  | nil => cases head
  | cons r rest =>
    refine ⟨Nat.succ_pos _, r, ?_, Option.some.inj head⟩
    obtain ⟨value, taken, becomes⟩ := next r rfl
    rw [element] at becomes
    cases becomes with
    | handle => exact taken
    | object other => exact absurd rfl other
    | adapter other => exact absurd rfl other
    | null other => exact absurd rfl other

end World
end TreeAdapter
