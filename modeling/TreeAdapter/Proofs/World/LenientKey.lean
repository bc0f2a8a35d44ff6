import TreeAdapter.Proofs.NameMap
import TreeAdapter.Proofs.Text.ByteOrder
import TreeAdapter.Proofs.World.Addressing

/-!
# Lenient keys

The same getter under strict and under lenient keys, each time on an adapter that was just built.
Both read the property under the exact key when there is one. Without one, and when no metadata
names the property, lenient keys read the one with the least name among those that the key matches
in lower case and without separators (`Alike`, for `normalize_key`); strict keys never read any
other than the exact one.

* `World.lenient_conservative` — the outcomes under both settings
-/

namespace TreeAdapter
set_option autoImplicit false

/-- The settings with keys that are lenient or not. -/
def Settings.withLenient (s : Settings) (lenient : Bool) : Settings :=
  { s with lenientKeys := lenient }

/-- The factory with keys that are lenient or not. -/
def Factory.withLenient (f : Factory) (lenient : Bool) : Factory :=
  { f with settings := f.settings.withLenient lenient }

/-! ## Keys that metadata name -/

namespace Method

/-- The metadata of a method name the property. -/
def NamesProperty (m : Method) : Prop :=
  ∃ access, m.accessor = some (.property access) ∧ Text.trim access.name ≠ ""

theorem namesProperty_iff {m : Method} :
    m.NamesProperty ↔ (Addressing.propertyParts m).2 ≠ "" := by
  unfold NamesProperty Addressing.propertyParts
  cases m.accessor with
  | none => simp
  | some accessor => cases accessor <;> simp

theorem derived_eq_false_iff {m : Method} {settings : Settings} {address : Address}
    (located : Addressing.property m settings = .ok address) :
    address.derived = false ↔ m.NamesProperty := by
  rw [namesProperty_iff]
  unfold Addressing.property at located
  dsimp only at located
  split at located
  · next unnamed =>
    split at located
    · cases located
    · split at located
      · cases located
      · cases located
        simp [unnamed]
  · next named =>
    split at located
    · cases located
    · cases located
      simp [named]

end Method

namespace World
variable {w : World} {separator : Char} {r : Resource} {key name : String}

/-! ## Names that match -/

/-- Two names are the same text when all separators are taken out of them and each character that is
left is in lower case. -/
def Alike (separator : Char) (x y : String) : Prop :=
  (x.toList.filter fun c => c ≠ separator).flatMap Text.lowerCase =
    (y.toList.filter fun c => c ≠ separator).flatMap Text.lowerCase

/-- Lenient matching compares names by what is left of them. -/
theorem lenientKey_eq_iff {x y : String} :
    lenientKey separator x = lenientKey separator y ↔ Alike separator x y := by
  have keeps : (fun c : Char => c != separator) = fun c => decide (c ≠ separator) := by
    funext c
    rw [bne, beq_eq_decide, decide_not]
  rw [lenientKey, lenientKey, keeps, Alike]

/-- The property that a key matches leniently, with the least name in the order of bytes. -/
structure IsLenientMatch (w : World) (separator : Char) (r : Resource) (key name : String) :
    Prop where
  present : (w.property? r name).isSome = true
  alike : Alike separator name key
  least : ∀ other, (w.property? r other).isSome = true → Alike separator other key →
    Text.utf8 name ≤ Text.utf8 other

/-- A key matches one name at most. -/
theorem IsLenientMatch.unique {other : String} (h : w.IsLenientMatch separator r key name)
    (h' : w.IsLenientMatch separator r key other) : name = other := by
  have less := h.least other h'.present h'.alike
  have more := h'.least name h.present h.alike
  exact String.le_antisymm (Text.utf8_le_iff.1 less) (Text.utf8_le_iff.1 more)

theorem mem_propertyNames_iff :
    name ∈ w.propertyNames r ↔ (w.property? r name).isSome = true := by
  unfold propertyNames Tree.propertyNames property? Tree.property?
  cases (w.tree r.tree).node? r.path with
  | none => simp
  | some node =>
    rw [Option.bind_some, NameMap.mem_keys_iff, NameMap.contains_eq_isSome]

theorem pairwise_propertyNames (w : World) (r : Resource) :
    (w.propertyNames r).Pairwise (· < ·) := by
  unfold propertyNames Tree.propertyNames
  cases (w.tree r.tree).node? r.path with
  | none => exact .nil
  | some node => exact List.pairwise_map.2 node.properties.ordered

theorem isLenientMatch_of_lenientMatch
    (found : lenientMatch separator (w.propertyNames r) key = some name) :
    w.IsLenientMatch separator r key name := by
  obtain ⟨alike, before, after, names, unlike⟩ := List.find?_eq_some_iff_append.1 found
  have ordered := w.pairwise_propertyNames r
  rw [names, List.pairwise_append, List.pairwise_cons] at ordered
  refine ⟨mem_propertyNames_iff.1 (List.mem_of_find?_eq_some found),
    lenientKey_eq_iff.1 (by simpa using alike), ?_⟩
  intro other present same
  rw [← lenientKey_eq_iff] at same
  rw [← mem_propertyNames_iff, names, List.mem_append, List.mem_cons] at present
  rw [Text.utf8_le_iff]
  rcases present with earlier | rfl | later
  · simpa [same] using unlike other earlier
  · exact String.le_refl other
  · have less : name < other := ordered.2.1.1 other later
    exact String.not_lt.1 fun back => String.lt_irrefl _ (String.lt_trans back less)

/-- A key that finds no name matches none. -/
theorem not_alike_of_lenientMatch_eq_none
    (found : lenientMatch separator (w.propertyNames r) key = none)
    (present : (w.property? r name).isSome = true) : ¬Alike separator name key := by
  have apart := List.find?_eq_none.1 found name (mem_propertyNames_iff.2 present)
  rw [← lenientKey_eq_iff]
  simpa using apart

/-! ## Reading -/

section
variable {settings : Settings} {address : Address}

theorem readProperty_of_strict (strict : (address.derived && settings.lenientKeys) = false) :
    w.readProperty settings r address = w.property? r address.key := by
  unfold readProperty
  rw [strict]
  cases w.property? r address.key <;> rfl

theorem rawProperty_of_strict (strict : (address.derived && settings.lenientKeys) = false) :
    w.rawProperty settings r address =
      (w.resolve r address.path).bind (w.property? · address.key) := by
  unfold rawProperty
  simp only [readProperty_of_strict strict]

theorem readProperty_of_lenient (lenient : (address.derived && settings.lenientKeys) = true)
    (absent : w.property? r address.key = none) :
    w.readProperty settings r address =
      (lenientMatch settings.namespaceSeparator (w.propertyNames r) address.key).bind
        (w.property? r) := by
  unfold readProperty
  rw [absent, lenient]
  rfl

/-- Lenient or not, the value under the exact key counts when it is there. -/
theorem rawProperty_of_present
    (present : ((w.resolve r address.path).bind (w.property? · address.key)).isSome = true) :
    w.rawProperty settings r address =
      (w.resolve r address.path).bind (w.property? · address.key) := by
  unfold rawProperty
  cases there : w.resolve r address.path with
  | none => rfl
  | some target =>
    rw [there, Option.bind_some] at present
    obtain ⟨v, stored⟩ := Option.isSome_iff_exists.1 present
    rw [Option.bind_some, Option.bind_some, readProperty, stored]

/-- On a fresh adapter a property getter makes its answer of what it reads. -/
theorem first_of_propertyGetter (w : World) (f : Factory) {i : Interface} (r : Resource) {c : Call}
    {m : Method} (found : i.method? c.method c.args.length = some m)
    (getter : m.category f.settings = .propertyGetter) :
    w.first f i r c = some (match Addressing.property m f.settings with
      | .error e => .error e
      | .ok address => m.answerOf (w.rawProperty f.settings r address)) := by
  have reading : i.reading? f.settings c = some m := by
    rw [reading?_eq_some_iff, getter]
    exact ⟨found, rfl⟩
  have serves := serves_newAdapter w f i r
  have required : m.requiredAddress f.settings = Addressing.property m f.settings :=
    Method.requiredAddress_of_propertyGetter getter
  rw [first_eq reading, Option.some.injEq]
  cases located : Addressing.property m f.settings with
  | error e =>
    rw [uncached, read_eq (serves.getter reading).reads, serves.factory, required, located]
  | ok address =>
    rw [located] at required
    rw [uncached_of_located reading required]
    simp only [computed, serves.factory, getter]
    rfl

end

/-- A property getter on fresh adapters, under strict and under lenient keys. When no key can be
derived both fail alike. Otherwise the strict outcome is that of the value under the exact key, and
depends on nothing else in the trees. The lenient outcome is the same when the metadata name the
property, when the exact key is there or when nothing is where the getter looks; else it is that of
the least name that the key matches leniently, and the strict one when there is none. -/
theorem lenient_conservative (w : World) (f : Factory) (i : Interface) (r : Resource) {c : Call}
    {m : Method} (found : i.method? c.method c.args.length = some m)
    (getter : m.category f.settings = .propertyGetter) :
    (∀ e, Addressing.property m f.settings = .error e →
      ∀ lenient, w.first (f.withLenient lenient) i r c = some (.error e)) ∧
    ∀ address, Addressing.property m f.settings = .ok address →
      let held (u : World) := (u.resolve r address.path).bind (u.property? · address.key)
      let strict := w.first (f.withLenient false) i r c
      let lenient := w.first (f.withLenient true) i r c
      strict = some (m.answerOf (held w)) ∧
      (∀ u : World, held u = held w → u.first (f.withLenient false) i r c = strict) ∧
      (m.NamesProperty ∨ (held w).isSome = true ∨ w.resolve r address.path = none →
        lenient = strict) ∧
      ∀ target, w.resolve r address.path = some target → ¬m.NamesProperty →
        w.property? target address.key = none →
        (∃ name, w.IsLenientMatch f.settings.namespaceSeparator target address.key name ∧
          lenient = some (m.answerOf (w.property? target name))) ∨
        ((∀ name, (w.property? target name).isSome = true →
            ¬Alike f.settings.namespaceSeparator name address.key) ∧
          lenient = strict) := by
  have outcome (u : World) (lenient : Bool) :
      u.first (f.withLenient lenient) i r c = some (match Addressing.property m f.settings with
        | .error e => .error e
        | .ok address => m.answerOf (u.rawProperty (f.withLenient lenient).settings r address)) :=
    u.first_of_propertyGetter (f.withLenient lenient) r found getter
  refine ⟨fun e located lenient => by rw [outcome, located], fun address located => ?_⟩
  simp only [located] at outcome
  intro held strict lenient
  have strictly (u : World) : u.first (f.withLenient false) i r c = some (m.answerOf (held u)) := by
    rw [outcome, rawProperty_of_strict (Bool.and_false _)]
  refine ⟨strictly w, fun u same => ?_, fun h => ?_, fun target there unnamed absent => ?_⟩
  · rw [strictly, same]
    exact (strictly w).symm
  · suffices raw : w.rawProperty (f.withLenient true).settings r address = held w by
      show w.first _ i r c = w.first _ i r c
      rw [strictly, outcome, raw]
    rcases h with named | present | nowhere
    · have explicit := (Method.derived_eq_false_iff located).2 named
      exact rawProperty_of_strict (by rw [explicit, Bool.false_and])
    · exact rawProperty_of_present present
    · show _ = (w.resolve r address.path).bind _
      rw [rawProperty, nowhere]
      rfl
  · have derived : address.derived = true := by
      rw [← Bool.not_eq_false, Method.derived_eq_false_iff located]
      exact unnamed
    have raw : w.rawProperty (f.withLenient true).settings r address =
        (lenientMatch f.settings.namespaceSeparator (w.propertyNames target) address.key).bind
          (w.property? target) := by
      rw [rawProperty, there, Option.bind_some]
      exact readProperty_of_lenient (by rw [derived]; rfl) absent
    have answer : lenient =
        some (m.answerOf (w.rawProperty (f.withLenient true).settings r address)) :=
      outcome w true
    cases matched :
        lenientMatch f.settings.namespaceSeparator (w.propertyNames target) address.key with
    | some name =>
      rw [matched, Option.bind_some] at raw
      exact .inl ⟨name, isLenientMatch_of_lenientMatch matched, by rw [answer, raw]⟩
    | none =>
      refine .inr ⟨fun name => not_alike_of_lenientMatch_eq_none matched, ?_⟩
      have unheld : held w = none := by
        show (w.resolve r address.path).bind _ = none
        rw [there, Option.bind_some, absent]
      rw [answer, raw, matched, Option.bind_none]
      show _ = w.first _ i r c
      rw [strictly, unheld]

/-- Capitals come before small letters: of the two names that match, lenient keys read `JCR:title`,
not the one before it that does not match, and strict keys read neither. -/
theorem lenient_conservative_least :
    let names := ((NameMap.empty.insert "jcr:Title" (.string "b")).insert "JCR:title"
      (.string "a")).insert "Abstract" (.string "c")
    let w := ofTrees [⟨Node.mk names []⟩]
    let m : Method := ⟨"getJcrtitle", [], some .string, none, "Page"⟩
    let page := Interface.ofDeclaration ⟨"Page", [], [m], []⟩ []
    let r : Resource := ⟨0, Path.root⟩
    let f : Factory := default
    page.method? "getJcrtitle" 0 = some m ∧ m.category f.settings = .propertyGetter ∧
      w.IsLenientMatch ':' r "jcrtitle" "JCR:title" ∧
      w.first (f.withLenient true) page r ⟨"getJcrtitle", []⟩ = some (.ok (.string "a")) ∧
      w.first (f.withLenient false) page r ⟨"getJcrtitle", []⟩ = some (.ok .null) := by
  intro names w m page r f
  have found : page.method? "getJcrtitle" 0 = some m := by decide +kernel
  have getter : m.category f.settings = .propertyGetter := by decide +kernel
  have matched : lenientMatch ':' (w.propertyNames r) "jcrtitle" = some "JCR:title" := by
    decide +kernel
  have least : w.IsLenientMatch ':' r "jcrtitle" "JCR:title" :=
    isLenientMatch_of_lenientMatch matched
  have unnamed : ¬m.NamesProperty := by rintro ⟨_, metadata, _⟩; cases metadata
  have located : Addressing.property m f.settings =
      .ok ⟨"", "jcrtitle", true, "jcrtitle#String"⟩ := by decide +kernel
  obtain ⟨strict, _, _, leniently⟩ :=
    (lenient_conservative w f page r (c := ⟨"getJcrtitle", []⟩) found getter).2 _ located
  refine ⟨found, getter, least, ?_, strict⟩
  rcases leniently r rfl unnamed rfl with ⟨name, hit, outcome⟩ | ⟨apart, _⟩
  · obtain rfl := hit.unique least
    exact outcome
  · exact absurd least.alike (apart _ least.present)

end World
end TreeAdapter
