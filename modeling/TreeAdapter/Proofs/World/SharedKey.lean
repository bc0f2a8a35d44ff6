import TreeAdapter.Proofs.Address
import TreeAdapter.Proofs.World.CallOrder

/-!
# Getters that share a key

Two getters to which `resolve` gives one cache key cannot clash when they read alike: of one kind,
with the same type, the same default in use, and both or neither by a lenient key. `orderFree_iff`
is the condition for answers that do not depend on the order of calls, and says where a declaration
has to be looked at.
-/

namespace TreeAdapter
set_option autoImplicit false

namespace Method

def target? (m : Method) (settings : Settings) : Option Address :=
  (m.requiredAddress settings).toOption

/-- Two getters of one kind that make the same of what they find. -/
def ReadAlike (settings : Settings) (m n : Method) : Prop :=
  (m.category settings = .propertyGetter ∧ n.category settings = .propertyGetter ∧
    m.returns.getD .string = n.returns.getD .string ∧ m.usedFallback = n.usedFallback ∧
    (settings.lenientKeys = true →
      (m.target? settings).map (·.derived) = (n.target? settings).map (·.derived))) ∨
  (m.category settings = .referenceGetter ∧ n.category settings = .referenceGetter ∧
    m.returns.getD .resource = n.returns.getD .resource ∧
    (m.target? settings).map (·.path) = (n.target? settings).map (·.path))

instance (settings : Settings) (m n : Method) : Decidable (ReadAlike settings m n) := by
  unfold ReadAlike; infer_instance

/-- Both keep their answers under one key. -/
def SharesKey (settings : Settings) (m n : Method) : Prop :=
  (m.slot? settings).isSome = true ∧ m.slot? settings = n.slot? settings

instance (settings : Settings) (m n : Method) : Decidable (SharesKey settings m n) := by
  unfold SharesKey; infer_instance

theorem fallbackOf_eq (m : Method) :
    World.fallbackOf m = m.usedFallback.bind fun d => d.map (·.toStored) := by
  unfold World.fallbackOf usedFallback
  cases m.accessor with
  | none => rfl
  | some accessor =>
    cases accessor with
    | property access => cases used : access.useFallback <;> simp [used]
    | reference _ => rfl
    | children _ => rfl

theorem exists_target_of_sharesKey {settings : Settings} {m n : Method}
    (h : SharesKey settings m n) : ∃ A B, m.requiredAddress settings = .ok A ∧
      n.requiredAddress settings = .ok B ∧ A.cacheKey = B.cacheKey := by
  obtain ⟨shared, same⟩ := h
  unfold slot? at shared same
  cases own : m.requiredAddress settings with
  | error e => simp [own, Except.toOption] at shared
  | ok A =>
    cases other : n.requiredAddress settings with
    | error e => simp [own, other, Except.toOption] at same
    | ok B => exact ⟨A, B, rfl, rfl, by simpa [own, other, Except.toOption] using same⟩

end Method

namespace World

theorem resolve_eq_of_trim (w : World) (r : Resource) {x y : String} (empty : x = "" ↔ y = "")
    (same : Text.dropTrailing (· == '/') x.toList = Text.dropTrailing (· == '/') y.toList) :
    w.resolve r x = w.resolve r y := by
  unfold resolve Tree.resolve
  by_cases own : x = ""
  · rw [if_pos own, if_pos (empty.1 own)]
  · have other : y ≠ "" := fun eq => own (empty.2 eq)
    rw [if_neg own, if_neg other, Path.join_congr r.path own other same]

theorem readProperty_congr (w : World) {settings : Settings} (r : Resource) {A B : Address}
    (key : A.key = B.key) (derived : settings.lenientKeys = true → A.derived = B.derived) :
    w.readProperty settings r A = w.readProperty settings r B := by
  have lenient : (A.derived && settings.lenientKeys) = (B.derived && settings.lenientKeys) := by
    cases on : settings.lenientKeys with
    | false => simp
    | true => rw [derived on]
  unfold readProperty
  rw [key, lenient]

/-- Property getters that share a key and read alike answer alike. -/
theorem propertyAnswer_eq (w : World) {settings : Settings} (r : Resource) {m n : Method}
    {A B : Address} (own : Addressing.property m settings = .ok A)
    (other : Addressing.property n settings = .ok B) (shared : A.cacheKey = B.cacheKey)
    (returns : m.returns.getD .string = n.returns.getD .string)
    (fallback : m.usedFallback = n.usedFallback)
    (derived : settings.lenientKeys = true → A.derived = B.derived) :
    w.propertyAnswer settings r m A = w.propertyAnswer settings r n B := by
  obtain ⟨leafA, keyA⟩ := Addressing.property_eq_ok own
  obtain ⟨leafB, keyB⟩ := Addressing.property_eq_ok other
  rw [keyA, keyB, Method.propertyCacheKey_eq, Method.propertyCacheKey_eq, returns, fallback,
    String.append_left_inj, String.append_left_inj, String.append_left_inj] at shared
  obtain ⟨key, empty, paths⟩ := Addressing.under_inj leafA leafB shared
  have raw : w.rawProperty settings r A = w.rawProperty settings r B := by
    unfold rawProperty
    rw [resolve_eq_of_trim w r empty paths]
    exact congrArg _ (funext fun r => readProperty_congr w r key derived)
  unfold propertyAnswer
  rw [raw, returns, Method.fallbackOf_eq, Method.fallbackOf_eq, fallback]

theorem computed_eq_of_readAlike (w : World) (a : Adapter) {m n : Method} {A B : Address}
    (own : m.requiredAddress (w.factoryOf a).settings = .ok A)
    (other : n.requiredAddress (w.factoryOf a).settings = .ok B) (shared : A.cacheKey = B.cacheKey)
    (alike : m.ReadAlike (w.factoryOf a).settings n) :
    w.computed a m A = w.computed a n B := by
  unfold computed
  rcases alike with ⟨kind, kind', returns, fallback, derived⟩ | ⟨kind, kind', returns, path⟩
  · have lenient (on : (w.factoryOf a).settings.lenientKeys = true) : A.derived = B.derived := by
      simpa [Method.target?, own, other, Except.toOption] using derived on
    rw [Method.requiredAddress_of_propertyGetter kind] at own
    rw [Method.requiredAddress_of_propertyGetter kind'] at other
    simp only [kind, kind']
    rw [propertyAnswer_eq w a.resource own other shared returns fallback lenient]
  · have leads : A.path = B.path := by
      simpa [Method.target?, own, other, Except.toOption] using path
    simp only [kind, kind', referenceAnswer, leads, returns]

variable {w : World} {f : Factory} {i : Interface} {r : Resource}

/-- The methods of an interface that share a key read alike. -/
def KeysReadAlike (i : Interface) (settings : Settings) : Prop :=
  ∀ m ∈ i.methods, ∀ n ∈ i.methods, (m.category settings).isReading = true →
    (n.category settings).isReading = true → m.SharesKey settings n → m.ReadAlike settings n

instance (i : Interface) (settings : Settings) : Decidable (KeysReadAlike i settings) := by
  unfold KeysReadAlike; infer_instance

theorem not_clash_of_keysReadAlike (alike : KeysReadAlike i f.settings) (c d : Call) :
    ¬Clash w f i r c d := by
  rintro ⟨m, n, v, readingC, readingD, slots, answer, apart⟩
  have serves := serves_newAdapter w f i r
  rw [first_eq readingC, Option.some.injEq] at answer
  obtain ⟨foundC, readsC⟩ := reading?_eq_some_iff.1 readingC
  obtain ⟨foundD, readsD⟩ := reading?_eq_some_iff.1 readingD
  have shares : m.SharesKey f.settings n := by
    refine ⟨?_, slots⟩
    have whole : (w.newAdapter f i r).1.read (w.newAdapter f i r).2 m = (_, .ok v) :=
      Prod.ext rfl answer
    obtain ⟨address, located, _⟩ := (serves.getter readingC).cached_of_read whole
    rw [serves.factory] at located
    rw [slot?_eq located]
    rfl
  obtain ⟨A, B, own, other, shared⟩ := Method.exists_target_of_sharesKey shares
  have reads := alike m (List.mem_of_find?_eq_some foundC) n (List.mem_of_find?_eq_some foundD)
    readsC readsD shares
  rw [← serves.factory] at own other reads
  refine apart (w.uncached f i r n) (first_eq readingD) ?_
  have same := computed_eq_of_readAlike _ _ own other shared reads
  rw [serves.factory] at own other
  rw [uncached_of_located readingC own] at answer
  rw [uncached_of_located readingD other, ← same, answer]
  exact .refl _

/-- The outcome of every call is that of a fresh adapter, whatever was called before, exactly when
no two getters clash; and none do when those that share a key read alike. -/
theorem orderFree_iff (w : World) (f : Factory) (i : Interface) (r : Resource) :
    (OrderFree w f i r ↔ ¬∃ c d, Clash w f i r c d) ∧
    (KeysReadAlike i f.settings → OrderFree w f i r) := by
  constructor
  · constructor
    · intro free
      rintro ⟨c, d, clash⟩
      exact not_clash_of_orderFree free c d clash
    · exact orderFree_of_not_clash
  · intro alike
    apply orderFree_of_not_clash
    rintro ⟨c, d, clash⟩
    exact not_clash_of_keysReadAlike alike c d clash

/-- A title read as text and as a number has a key for each. Read as text and as the interface
`String` it has one key for both, as the two types have one text, and only the first is an
answer. -/
theorem orderFree_iff_title :
    let titled : World := ofTrees [⟨Node.mk (NameMap.empty.insert "title" (.string "x")) []⟩]
    let title (name : String) (type : DeclaredType) : Method :=
      ⟨name, [], some type, some (.property ⟨"", "title", none, false⟩), ""⟩
    let page (type : DeclaredType) : Interface :=
      .ofDeclaration ⟨"Page", [], [title "getTitle" .string, title "getOther" type], []⟩ []
    OrderFree titled default (page .long) ⟨0, Path.root⟩ ∧
      ¬OrderFree titled default (page (.adapter "String")) ⟨0, Path.root⟩ := by
  intro titled title page
  refine ⟨(orderFree_iff _ _ _ _).2 (by decide +kernel), fun free => ?_⟩
  have answered : ((titled.first default (page (.adapter "String")) ⟨0, Path.root⟩
      ⟨"getTitle", []⟩).map fun o => o.toOption.isSome) = some true := by decide +kernel
  have failed : ((titled.first default (page (.adapter "String")) ⟨0, Path.root⟩
      ⟨"getOther", []⟩).map fun o => o.toOption.isSome) = some false := by decide +kernel
  obtain ⟨o, called, succeeds⟩ := Option.map_eq_some_iff.1 answered
  cases o with
  | error e => cases succeeds
  | ok v =>
    refine (orderFree_iff _ _ _ _).1.1 free ⟨⟨"getTitle", []⟩, ⟨"getOther", []⟩, ?_⟩
    refine ⟨{ title "getTitle" .string with declaredIn := "Page" },
      { title "getOther" (.adapter "String") with declaredIn := "Page" }, v, by decide +kernel,
      by decide +kernel, by decide +kernel, called, fun p called' agrees => ?_⟩
    rw [called', Option.map_some, Option.some.injEq] at failed
    cases agrees
    cases failed

end World
end TreeAdapter
