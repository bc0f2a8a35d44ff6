import TreeAdapter.Proofs.Value.Cast
import TreeAdapter.Proofs.World.Collection
import TreeAdapter.Proofs.World.Identity
import TreeAdapter.Proofs.World.LenientKey

/-!
# What is not there

A path can climb above the root, its node can be gone, and a node can lack a property. Each getter
makes the best of it: `get_reference` answers nothing, `get_children` an empty listing, and
`get_property` nothing too, since only what is stored is cast (`Method.answerOf_eq_null_iff`,
`Method.of_answerOf_error`). `Offers` says what a getter of a property can read at all, and
`rawProperty_eq_none_iff` that it reads nothing only when nothing is offered.

* `absence_is_no_failure` — getters fail only over a value that is there and cannot be cast
-/

namespace TreeAdapter
set_option autoImplicit false

/-! ## Values -/

namespace Method
variable {m : Method} {raw : Option StoredValue}

/-- Only what is absent is cast to nothing. -/
theorem answerOf_eq_null_iff :
    m.answerOf raw = .ok .null ↔ raw = none ∧ World.fallbackOf m = none := by
  rw [← Option.or_eq_none_iff]
  unfold answerOf
  cases value : raw.or (World.fallbackOf m) with
  | none => exact iff_of_true rfl rfl
  | some v =>
    refine iff_of_false ?_ (Option.some_ne_none v)
    intro null
    split at null
    · next cast =>
      cases null
      cases (isAssignable_of_cast cast).1
    · cases null

/-- What fails is the cast of a value that is there. -/
theorem of_answerOf_error {e : AdapterError} (h : m.answerOf raw = .error e) :
    ∃ v c, (raw = some v ∨ World.fallbackOf m = some v) ∧
      cast (some v) (m.returns.getD .string) = .error c ∧ e = .coercion c := by
  unfold answerOf at h
  split at h
  · cases h
  · next c failed =>
    cases h
    cases value : raw.or (World.fallbackOf m) with
    | none =>
      rw [value] at failed
      cases failed
    | some v =>
      rw [value] at failed
      refine ⟨v, c, ?_, failed, rfl⟩
      exact (Option.or_eq_some_iff.1 value).imp_right And.right

end Method

namespace World
variable {w : World} {a : Adapter} {r : Resource} {m : Method} {path : String}

/-! ## Places -/

/-- A value that a getter of a property may read: at the node that its path leads to, under its key
or, when it derives the key and keys are lenient, under any name that the key matches. -/
def Offers (w : World) (settings : Settings) (r : Resource) (address : Address) (v : StoredValue) :
    Prop :=
  ∃ p name, r.path.join address.path = some p ∧ (w.tree r.tree).property? p name = some v ∧
    (name = address.key ∨ address.derived = true ∧ settings.lenientKeys = true ∧
      Alike settings.namespaceSeparator name address.key)

/-- Only the empty path leads to a resource that is gone. -/
theorem Vacant.resolve_eq_none (vacant : w.Vacant r path) (leads : path ≠ "") :
    w.resolve r path = none := by
  cases found : w.resolve r path with
  | none => rfl
  | some target =>
    obtain ⟨p, resolved, rfl⟩ := Option.map_eq_some_iff.1 found
    rw [Tree.resolve, if_neg leads, Option.filter_eq_some_iff] at resolved
    cases resolved.2.symm.trans (vacant.holds_eq_false found)

/-! ## Properties -/

section
variable {settings : Settings} {address : Address} {v : StoredValue}

theorem readProperty_eq_none_iff : w.readProperty settings r address = none ↔
    w.property? r address.key = none ∧
      ((address.derived && settings.lenientKeys) = true → ∀ name,
        (w.property? r name).isSome = true →
          ¬Alike settings.namespaceSeparator name address.key) := by
  cases absent : w.property? r address.key with
  | some v => simp [readProperty, absent]
  | none =>
    cases lenient : address.derived && settings.lenientKeys with
    | false => simp [readProperty_of_strict lenient, absent]
    | true =>
      rw [readProperty_of_lenient lenient absent]
      cases matched : lenientMatch settings.namespaceSeparator (w.propertyNames r) address.key with
      | none =>
        have apart : ∀ name, (w.property? r name).isSome = true →
            ¬Alike settings.namespaceSeparator name address.key :=
          fun name => not_alike_of_lenientMatch_eq_none matched
        simpa using apart
      | some name =>
        obtain ⟨present, alike, -⟩ := isLenientMatch_of_lenientMatch matched
        refine iff_of_false ?_ ?_
        · intro unread
          rw [Option.bind_some] at unread
          rw [unread] at present
          cases present
        · rintro ⟨-, apart⟩
          exact apart rfl name present alike

theorem rawProperty_eq (w : World) (settings : Settings) (r : Resource) (address : Address) :
    w.rawProperty settings r address =
      (r.path.join address.path).bind fun p => w.readProperty settings ⟨r.tree, p⟩ address := by
  rw [rawProperty, resolve, Option.bind_map]
  apply (w.tree r.tree).bind_resolve_of_missing
  intro p missing
  have bare (name : String) : w.property? ⟨r.tree, p⟩ name = none := by
    rw [property?, Tree.property?, missing, Option.bind_none]
  refine readProperty_eq_none_iff.2 ⟨bare address.key, fun _ name present => ?_⟩
  rw [bare name] at present
  cases present

theorem offers_of_rawProperty (h : w.rawProperty settings r address = some v) :
    w.Offers settings r address v := by
  rw [rawProperty_eq] at h
  obtain ⟨p, joined, read⟩ := Option.bind_eq_some_iff.1 h
  cases exact : w.property? ⟨r.tree, p⟩ address.key with
  | some u =>
    rw [readProperty, exact] at read
    obtain rfl := Option.some.inj read
    exact ⟨p, address.key, joined, exact, .inl rfl⟩
  | none =>
    cases lenient : address.derived && settings.lenientKeys with
    | false =>
      rw [readProperty_of_strict lenient, exact] at read
      cases read
    | true =>
      rw [readProperty_of_lenient lenient exact] at read
      obtain ⟨name, matched, stored⟩ := Option.bind_eq_some_iff.1 read
      obtain ⟨derived, keys⟩ := Bool.and_eq_true_iff.1 lenient
      have alike := (isLenientMatch_of_lenientMatch matched).alike
      exact ⟨p, name, joined, stored, .inr ⟨derived, keys, alike⟩⟩

/-- A getter reads nothing only when nothing is offered. -/
theorem rawProperty_eq_none_iff :
    w.rawProperty settings r address = none ↔ ∀ v, ¬w.Offers settings r address v := by
  constructor
  · rintro unread v ⟨p, name, joined, stored, named⟩
    rw [rawProperty_eq, joined, Option.bind_some] at unread
    obtain ⟨exact, apart⟩ := readProperty_eq_none_iff.1 unread
    have present : w.property? ⟨r.tree, p⟩ name = some v := stored
    rcases named with rfl | ⟨derived, lenient, alike⟩
    · cases exact.symm.trans present
    · refine apart (by rw [derived, lenient]; rfl) name ?_ alike
      rw [present, Option.isSome_some]
  · intro nothing
    cases read : w.rawProperty settings r address with
    | none => rfl
    | some v => exact absurd (offers_of_rawProperty read) (nothing v)

end

/-! ## Getters -/

namespace Getter
variable {name : String} {arity : Nat}

theorem read_of_reference (h : Getter w a name arity m) {access : ReferenceAccess}
    (metadata : m.accessor = some (.reference access)) :
    ∃ v, (w.read a m).2 = .ok v ∧ (w.cached a (Addressing.reference m access).cacheKey = none →
      Text.trim access.path ≠ "" → w.Vacant a.resource (Text.trim access.path) → v = .null) := by
  have category (settings : Settings) : m.category settings = .referenceGetter := by
    rw [Method.category, metadata]
  have located :
      m.requiredAddress (w.factoryOf a).settings = .ok (Addressing.reference m access) := by
    simp only [Method.requiredAddress, Method.address, category, Method.addressFor, metadata]
    rfl
  cases free : w.cached a (Addressing.reference m access).cacheKey with
  | some v =>
    rw [h.read_of_cached located free]
    exact ⟨v, rfl, fun unkept => by cases unkept⟩
  | none =>
    rw [h.read_of_free located free]
    simp only [computed, category]
    refine ⟨_, rfl, fun _ leads vacant => ?_⟩
    have nowhere : w.resolve a.resource (Addressing.reference m access).path = none :=
      vacant.resolve_eq_none leads
    simp only [referenceAnswer, nowhere]

theorem read_of_property (h : Getter w a name arity m) {address : Address}
    (category : m.category (w.factoryOf a).settings = .propertyGetter)
    (located : Addressing.property m (w.factoryOf a).settings = .ok address) :
    (w.cached a address.cacheKey = none → (w.read a m).2 =
      m.answerOf (w.rawProperty (w.factoryOf a).settings a.resource address)) ∧
    ∀ e, (w.read a m).2 = .error e → w.cached a address.cacheKey = none := by
  rw [← Method.requiredAddress_of_propertyGetter category] at located
  constructor
  · intro free
    rw [h.read_of_free located free]
    simp only [computed, category]
    rfl
  · intro e failed
    cases hit : w.cached a address.cacheKey with
    | none => rfl
    | some v =>
      rw [h.read_of_cached located hit] at failed
      cases failed

end Getter

theorem ChildrenGetter.read_of_children {name : String} {arity : Nat} {access : ChildrenAccess}
    (h : ChildrenGetter w a name arity m access) :
    ∃ v, (w.read a m).2 = .ok v ∧ (w.cached a (Addressing.children m access).cacheKey = none →
      w.Vacant a.resource (Text.trim access.path) → ∃ c, v = .children c ∧
        ((w.read a m).1.hasNext c).2 = false ∧ ((w.read a m).1.next c).2 = none) := by
  cases free : w.cached a (Addressing.children m access).cacheKey with
  | some v =>
    rw [h.getter.read_of_cached (h.requiredAddress_eq _) free]
    exact ⟨v, rfl, fun unkept => by cases unkept⟩
  | none =>
    obtain ⟨u, c, -, called, -, pending⟩ := h.exists_made free
    have read : w.read a m = (u, .ok (.children c)) :=
      h.getter.calls_iff.1 ((called u _).2 ⟨rfl, rfl⟩)
    rw [read]
    refine ⟨.children c, rfl, fun _ vacant => ⟨c, rfl, ?_⟩⟩
    rw [vacant.listedChildren_eq_nil, List.map_nil] at pending
    exact ⟨pending.hasNext_snd, pending.next_of_nil⟩

/-- Calls of getters on an adapter that was built from a registry, at any time and with the trees as
they are by then. A reference and a listing never fail; the first time they are asked for, a
reference to where no node is, is nothing, and a listing has no elements. A property whose key is
known is nothing the first time exactly when its getter is offered no value and uses no default; and
it fails only over a value that it is offered or its default, which cannot be cast. -/
theorem absence_is_no_failure {R : Registry} (made : R.Made) {target : String}
    (built : BuiltFrom R w a target) (declared : m ∈ a.interface.methods) {args : List Value}
    (arity : args.length = m.arity) (depth : Nat) :
    let settings := (w.factoryOf a).settings
    let call := dispatch (depth + 1) w a m.name args
    (∀ access, m.accessor = some (.reference access) → ∃ w' v, call = some (w', .ok v) ∧
      (w.cached a (Addressing.reference m access).cacheKey = none →
        w.Vacant a.resource (Text.trim access.path) → v = .null)) ∧
    (∀ access, m.accessor = some (.children access) → ∃ w' v, call = some (w', .ok v) ∧
      (w.cached a (Addressing.children m access).cacheKey = none →
        w.Vacant a.resource (Text.trim access.path) → ∃ c, v = .children c ∧
          (w'.hasNext c).2 = false ∧ (w'.next c).2 = none)) ∧
    (m.category settings = .propertyGetter →
      ∀ address, Addressing.property m settings = .ok address →
        ∃ w' outcome, call = some (w', outcome) ∧
          (w.cached a address.cacheKey = none → (outcome = .ok .null ↔
            (∀ v, ¬w.Offers settings a.resource address v) ∧ fallbackOf m = none)) ∧
          ∀ e, outcome = .error e → ∃ v c,
            (w.Offers settings a.resource address v ∨ fallbackOf m = some v) ∧
            cast (some v) (m.returns.getD .string) = .error c ∧ e = .coercion c) := by
  intro settings call
  obtain ⟨alive, -, registered⟩ := built.spec
  have found := lookup_of_mem made registered declared settings
  have answered (reads : (m.category settings).isAccessor = true) :
      Getter w a m.name m.arity m ∧ call = some (w.read a m) := by
    have getter : Getter w a m.name m.arity m := ⟨alive, found, reads⟩
    exact ⟨getter, getter.dispatch_eq arity depth⟩
  refine ⟨?_, ?_, ?_⟩
  · intro access metadata
    obtain ⟨getter, answer⟩ := answered (by rw [Method.category, metadata]; rfl)
    obtain ⟨v, outcome, absent⟩ := getter.read_of_reference metadata
    obtain ⟨ds, held⟩ := made.exists_holds
    have leads := held.referencesLead registered m declared access metadata
    refine ⟨(w.read a m).1, v, by rw [answer, ← outcome], ?_⟩
    intro free vacant
    exact absent free (Text.trim_ne_empty leads) vacant
  · intro access metadata
    obtain ⟨getter, answer⟩ := answered (by rw [Method.category, metadata]; rfl)
    have children : ChildrenGetter w a m.name m.arity m access := ⟨alive, found, metadata⟩
    obtain ⟨v, outcome, absent⟩ := children.read_of_children
    exact ⟨(w.read a m).1, v, by rw [answer, ← outcome], absent⟩
  · intro category address located
    obtain ⟨getter, answer⟩ := answered (by rw [category]; rfl)
    obtain ⟨fresh, unkept⟩ := getter.read_of_property category located
    refine ⟨(w.read a m).1, (w.read a m).2, answer, ?_, ?_⟩
    · intro free
      rw [fresh free, Method.answerOf_eq_null_iff, rawProperty_eq_none_iff]
    · intro e failed
      rw [fresh (unkept e failed)] at failed
      obtain ⟨v, c, value, uncast, rfl⟩ := Method.of_answerOf_error failed
      exact ⟨v, c, value.imp_left offers_of_rawProperty, uncast, rfl⟩

/-- After its node was removed, a page has no link above the root, no pages and no title. -/
theorem absence_is_no_failure_removed :
    let link : Method := ⟨"getLink", [], some .resource, some (.reference ⟨"../.."⟩), "Page"⟩
    let pages : Method :=
      ⟨"getPages", [], none, some (.children ⟨"", .resource, .all⟩), "Page"⟩
    let title : Method := ⟨"getTitle", [], some .long, none, "Page"⟩
    let page : Declaration := ⟨"Page", [], [link, pages, title], []⟩
    let R := Registry.empty.attempt page
    let f := { (default : Factory) with registry := R }
    let t := (Tree.insertNode Tree.empty "/a").toOption.getD Tree.empty
    let r : Resource := ⟨0, Path.root.child ⟨"a", by decide⟩⟩
    let built := (ofTrees [t]).newAdapter f (Interface.ofDeclaration page []) r
    let w := built.1.setTree 0 Tree.empty
    let a := built.2
    BuiltFrom R w a "Page" ∧
      (∃ w', dispatch 1 w a "getLink" [] = some (w', .ok .null)) ∧
      (∃ w' c, dispatch 1 w a "getPages" [] = some (w', .ok (.children c)) ∧
        (w'.next c).2 = none) ∧
      ∃ w', dispatch 1 w a "getTitle" [] = some (w', .ok .null) := by
  intro link pages title page R f t r built w a
  have made : R.Made := .attempt .empty page
  have fit : f.interface "Page" = .ok (Interface.ofDeclaration page []) :=
    Factory.interface_eq_ok_iff.2 (by decide +kernel)
  have here : (ofTrees [t]).holds r = true := by decide +kernel
  have adapted : (ofTrees [t]).adapt f r "Page" = .ok (built.1, a) :=
    adapt_eq_ok_iff.2 ⟨here, _, fit, rfl⟩
  have later : BuiltFrom R w a "Page" :=
    .later (.direct rfl adapted) (.cons (.tree built.1 0 Tree.empty) (.nil w))
  have noArgs {m : Method} (bare : m.params = []) : ([] : List Value).length = m.arity := by
    rw [Method.arity, bare]
    rfl
  refine ⟨later, ?_, ?_, ?_⟩
  · have declared : link ∈ a.interface.methods := List.mem_cons_self
    obtain ⟨w', v, called, null⟩ :=
      (absence_is_no_failure made later declared (noArgs rfl) 0).1 ⟨"../.."⟩ rfl
    have above : r.path.join (Text.trim "../..") = none := by decide +kernel
    obtain rfl := null (by decide +kernel) (fun p joined => by cases above.symm.trans joined)
    exact ⟨w', called⟩
  · have declared : pages ∈ a.interface.methods := List.mem_cons_of_mem _ List.mem_cons_self
    obtain ⟨w', v, called, empty⟩ :=
      (absence_is_no_failure made later declared (noArgs rfl) 0).2.1 _ rfl
    have own : r.path.join (Text.trim "") = some r.path := by decide +kernel
    obtain ⟨c, rfl, -, ended⟩ := empty (by decide +kernel) fun p joined => by
      cases own.symm.trans joined
      decide +kernel
    exact ⟨w', c, called, ended⟩
  · have declared : title ∈ a.interface.methods :=
      List.mem_cons_of_mem _ (List.mem_cons_of_mem _ List.mem_cons_self)
    have located : Addressing.property title (w.factoryOf a).settings =
        .ok ⟨"", "title", true, "title#Long"⟩ := by decide +kernel
    obtain ⟨w', outcome, called, absent, -⟩ :=
      (absence_is_no_failure made later declared (noArgs rfl) 0).2.2 (by decide +kernel) _ located
    have nothing : w.rawProperty (w.factoryOf a).settings a.resource
        ⟨"", "title", true, "title#Long"⟩ = none := by decide +kernel
    rw [(absent (by decide +kernel)).2 ⟨rawProperty_eq_none_iff.1 nothing, rfl⟩] at called
    exact ⟨w', called⟩

end World
end TreeAdapter
