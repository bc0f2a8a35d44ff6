import TreeAdapter.Proofs.Address.DerivedKey
import TreeAdapter.Proofs.World.LenientKey

/-!
# Setters

A call of `invoke` resolves a setter like a getter of its name, and only when it has an address the
setter answers that nothing can be set. Its name is one of the convention, so a key can always be
derived from it (`Convention.exists_propertyName`); but the key, derived or not, may end in a
separator, and then no property is left to name (`NamesNothing`).

* `World.setter_fails` — what a call of a setter fails with
-/

namespace TreeAdapter
set_option autoImplicit false

/-! ## Names of the convention -/

namespace Text

theorem le_lowerCasePoint {n : Nat} (h : 128 ≤ n) : 97 ≤ lowerCasePoint n := by
  have images : ∀ run ∈ lowerCaseRuns, 97 ≤ run.2.2.2 :=
    List.all_iff_forall_prop.1 (by decide)
  unfold lowerCasePoint
  split
  · next lo hi step image found =>
    have least : 97 ≤ image := images _ (List.mem_of_find?_eq_some found)
    omega
  · omega

theorem ofNat_ne_slash {n : Nat} (h : n ≠ 47) : Char.ofNat n ≠ '/' := by
  intro same
  by_cases valid : n.isValidChar
  · rw [Char.ofNat, dif_pos valid] at same
    have point : n = 47 := congrArg Char.toNat same
    exact h point
  · rw [Char.ofNat, dif_neg valid] at same
    cases same

/-- No letter becomes a separator in lower case. -/
theorem slash_notMem_lowerCase {c : Char} (h : c ≠ '/') : '/' ∉ lowerCase c := by
  unfold lowerCase
  split
  · next ascii =>
    have small : ∀ n < 128, (Char.ofNat n).toLower = '/' → Char.ofNat n = '/' := by decide
    rw [List.mem_singleton]
    intro same
    have lower := small c.toNat ascii
    rw [Char.ofNat_toNat] at lower
    exact h (lower same.symm)
  · next wide =>
    split
    · decide
    · have image := le_lowerCasePoint (Nat.le_of_not_lt wide)
      have point : lowerCasePoint c.toNat ≠ 47 := by omega
      rw [List.mem_singleton]
      exact (ofNat_ne_slash point).symm

theorem lowerCase_ne_nil (c : Char) : lowerCase c ≠ [] := by
  unfold lowerCase
  split
  · exact List.cons_ne_nil _ _
  · split <;> exact List.cons_ne_nil _ _

end Text

namespace Convention

theorem exists_of_propertyName {method name : String} (h : propertyName method = some name) :
    ∃ rest, isCapitalized rest = true ∧ name.toList = uncapitalized rest := by
  have capitalized {word : String} {rest : List Char}
      (found : behind word method.toList = some rest) : isCapitalized rest = true := by
    unfold behind at found
    dsimp only at found
    split at found
    · split at found
      · next capital =>
        obtain rfl := Option.some.inj found
        exact capital
      · cases found
    · cases found
  obtain ⟨rest, found, rfl⟩ := Option.map_eq_some_iff.1 h
  refine ⟨rest, ?_, String.toList_ofList⟩
  rcases Option.or_eq_some_iff.1 found with get | ⟨_, found⟩
  · exact capitalized get
  · rcases Option.or_eq_some_iff.1 found with is | ⟨_, set⟩
    · exact capitalized is
    · exact capitalized set

/-- The property of a name of the convention has a name, without separators. -/
theorem slash_notMem_of_propertyName {method name : String} (h : propertyName method = some name) :
    name ≠ "" ∧ '/' ∉ name.toList := by
  obtain ⟨rest, capital, whole⟩ := exists_of_propertyName h
  cases rest with
  | nil => cases capital
  | cons c cs =>
    rw [uncapitalized] at whole
    rw [isCapitalized, Bool.and_eq_true] at capital
    have solid : ∀ d ∈ c :: cs, d ≠ '/' := by
      rintro d mem rfl
      have name := List.all_eq_true.1 capital.2 _ mem
      revert name
      decide
    constructor
    · rintro rfl
      exact Text.lowerCase_ne_nil c (List.append_eq_nil_iff.1 whole.symm).1
    · rw [whole, List.mem_append, not_or]
      constructor
      · exact Text.slash_notMem_lowerCase (solid c List.mem_cons_self)
      · exact fun mem => solid _ (List.mem_cons_of_mem c mem) rfl

theorem exists_propertyName {method : String} (h : startsWith "set" method = true) :
    ∃ name, propertyName method = some name := by
  obtain ⟨rest, found⟩ := Option.isSome_iff_exists.1 h
  unfold propertyName
  dsimp only
  rw [found]
  cases behind "get" method.toList with
  | some get => exact ⟨_, rfl⟩
  | none =>
    cases behind "is" method.toList with
    | some is => exact ⟨_, rfl⟩
    | none => exact ⟨_, rfl⟩

end Convention

/-! ## Keys without a leaf -/

namespace Addressing

theorem leaf_eq_empty_iff {name : String} (named : name ≠ "") (path : String) :
    (locate path name).2 = "" ↔ name.toList.getLast? = some '/' := by
  obtain ⟨directories, leaf, ⟨plain, whole⟩, located⟩ := exists_splits path name
  rw [located]
  cases directories with
  | none =>
    obtain rfl : name = leaf := whole
    refine iff_of_false named fun last => ?_
    exact plain (List.mem_of_getLast? last)
  | some d =>
    have chars : name.toList = d.toList ++ '/' :: leaf.toList := by simp [whole]
    rw [chars]
    by_cases empty : leaf = ""
    · subst empty
      simp
    · refine iff_of_false empty fun last => ?_
      have kept : leaf.toList ≠ [] := by simpa using empty
      rw [List.getLast?_append_of_ne_nil _ (List.cons_ne_nil _ _),
        List.getLast?_cons_of_ne_nil kept] at last
      exact plain (List.mem_of_getLast? last)

theorem getLast?_derivedKey {method name : String}
    (named : Convention.propertyName method = some name) (settings : Settings) :
    derivedKey method settings ≠ "" ∧
      ((derivedKey method settings).toList.getLast? = some '/' ↔
        name.toList.getLast? = some settings.namespacePlaceholder ∧
          settings.namespaceSeparator = '/') := by
  obtain ⟨nonempty, plain⟩ := Convention.slash_notMem_of_propertyName named
  unfold derivedKey
  simp only [named, String.toList_ofList, List.getLast?_map]
  constructor
  · intro empty
    have nothing := congrArg String.toList empty
    rw [String.toList_ofList, String.toList_empty, List.map_eq_nil_iff] at nothing
    exact nonempty (String.toList_inj.1 nothing)
  · constructor
    · intro last
      obtain ⟨c, here, image⟩ := Option.map_eq_some_iff.1 last
      split at image
      · next same => exact ⟨by rw [here, same], image⟩
      · obtain rfl := image
        exact absurd (List.mem_of_getLast? here) plain
    · rintro ⟨last, separator⟩
      rw [last, Option.map_some, if_pos rfl, separator]

/-- The key of a property with the directories in front of it: the name in the metadata, or else the
key that the method is named after. -/
def fullKey (m : Method) (settings : Settings) : String :=
  if (propertyParts m).2 = "" then derivedKey m.name settings else (propertyParts m).2

variable {m : Method} {settings : Settings}

/-- A property has an address unless its key ends in a separator. -/
theorem property_of_fullKey (named : fullKey m settings ≠ "") :
    ((fullKey m settings).toList.getLast? = some '/' →
      property m settings = .error (.invalidSpec (.emptyPropertyName m.name))) ∧
    ((fullKey m settings).toList.getLast? ≠ some '/' →
      ∃ address, property m settings = .ok address) := by
  have leaf := leaf_eq_empty_iff named (propertyParts m).1
  generalize split : locate (propertyParts m).1 (fullKey m settings) = place at leaf
  obtain ⟨derived, address⟩ : ∃ derived, property m settings =
      if place.2 = "" then .error (.invalidSpec (.emptyPropertyName m.name))
      else .ok ⟨place.1, place.2, derived, propertyCacheKey m place.1 place.2⟩ := by
    unfold fullKey at named split
    unfold property
    by_cases unnamed : (propertyParts m).2 = ""
    · rw [if_pos unnamed] at named split
      exact ⟨true, by simp only [if_pos unnamed, if_neg named, split]⟩
    · rw [if_neg unnamed] at named split
      exact ⟨false, by simp only [if_neg unnamed, split]⟩
  rw [address]
  constructor
  · intro last
    exact if_pos (leaf.2 last)
  · intro other
    exact ⟨_, if_neg (mt leaf.1 other)⟩

end Addressing

namespace Method

/-- The name of the property ends in a separator, which leaves none to name: the name in the
metadata, or else the one that the method is named after, in which placeholders are separators. -/
inductive NamesNothing (m : Method) (settings : Settings) : Prop where
  | explicit (access : PropertyAccess) (metadata : m.accessor = some (.property access))
      (last : (Text.trim access.name).toList.getLast? = some '/')
  | derived (unnamed : ¬m.NamesProperty) (name : String)
      (convention : Convention.propertyName m.name = some name)
      (last : name.toList.getLast? = some settings.namespacePlaceholder)
      (separator : settings.namespaceSeparator = '/')

variable {m : Method} {settings : Settings}

theorem isSetter_of_propertySetter (h : m.category settings = .propertySetter) :
    m.isSetter = true := by
  unfold category at h
  repeat' split at h
  all_goals first | assumption | cases h

/-- The key of a setter is never empty, and ends in a separator when the setter names nothing. -/
theorem fullKey_of_setter (setter : m.isSetter = true) (settings : Settings) :
    Addressing.fullKey m settings ≠ "" ∧
      ((Addressing.fullKey m settings).toList.getLast? = some '/' ↔ m.NamesNothing settings) := by
  obtain ⟨name, named⟩ := Convention.exists_propertyName setter
  have derived := Addressing.getLast?_derivedKey named settings
  unfold Addressing.fullKey
  by_cases explicit : m.NamesProperty
  · rw [if_neg (namesProperty_iff.1 explicit)]
    refine ⟨namesProperty_iff.1 explicit, ?_⟩
    obtain ⟨access, metadata, -⟩ := id explicit
    have parts : (Addressing.propertyParts m).2 = Text.trim access.name := by
      rw [Addressing.propertyParts, metadata]
    rw [parts]
    constructor
    · exact .explicit access metadata
    · intro nothing
      cases nothing with
      | explicit access' metadata' last =>
        cases metadata.symm.trans metadata'
        exact last
      | derived unnamed => exact absurd explicit unnamed
  · rw [if_pos (not_not.1 (mt namesProperty_iff.2 explicit))]
    refine ⟨derived.1, derived.2.trans ?_⟩
    constructor
    · rintro ⟨last, separator⟩
      exact .derived explicit name named last separator
    · intro nothing
      cases nothing with
      | explicit access metadata last =>
        refine absurd ⟨access, metadata, ?_⟩ explicit
        intro empty
        rw [empty] at last
        cases last
      | derived _ name' named' last separator =>
        cases named.symm.trans named'
        exact ⟨last, separator⟩

end Method

/-! ## Calls -/

namespace World
variable {R : Registry} {a : Adapter} {name : String} {m : Method} {args : List Value}

theorem read_of_setter {w : World}
    (setter : m.category (w.factoryOf a).settings = .propertySetter) :
    w.read a m = (w, .error (match Addressing.property m (w.factoryOf a).settings with
      | .error e => e
      | .ok _ => .readOnly m.name)) := by
  have other : m.category (w.factoryOf a).settings ≠ .backingResource := by
    rw [setter]
    exact Category.noConfusion
  unfold read
  dsimp only
  rw [if_neg other, Method.requiredAddress_of_propertySetter setter]
  cases Addressing.property m (w.factoryOf a).settings with
  | error e => rfl
  | ok address =>
    dsimp only
    rw [answerAt, setter]

/-- A call of a setter fails and changes nothing, whatever the world and the settings are. It fails
because nothing can be set, unless the name of the property ends in a separator: then it fails as a
getter of that name does. -/
theorem setter_fails (made : R.Made) (registered : R.get? name = some a.interface)
    (declared : m ∈ a.interface.methods) (arity : args.length = m.arity) (w : World)
    (setter : m.category (w.factoryOf a).settings = .propertySetter) (depth : Nat) :
    ∃ e, dispatch (depth + 1) w a m.name args = some (w, .error e) ∧
      (m.NamesNothing (w.factoryOf a).settings →
        e = .invalidSpec (.emptyPropertyName m.name)) ∧
      (¬m.NamesNothing (w.factoryOf a).settings → e = .readOnly m.name) := by
  have found := lookup_of_mem made registered declared (w.factoryOf a).settings
  have answer : dispatch (depth + 1) w a m.name args = some (w.read a m) := by
    rw [dispatch, arity]
    simp only [found, setter]
  have settled := Method.isSetter_of_propertySetter setter
  obtain ⟨named, slash⟩ := Method.fullKey_of_setter settled (w.factoryOf a).settings
  obtain ⟨nothing, addressed⟩ := Addressing.property_of_fullKey named
  rw [answer, read_of_setter setter]
  refine ⟨_, rfl, ?_, ?_⟩
  · intro names
    rw [nothing (slash.2 names)]
  · intro names
    obtain ⟨address, located⟩ := addressed (mt slash.1 names)
    rw [located]

/-- The setter of `title/` and the setter of a text. -/
theorem setter_fails_title :
    let setTitle : Method :=
      ⟨"setTitle", [.string], none, some (.property ⟨"", "title/ ", none, false⟩), "Page"⟩
    let setText : Method := ⟨"setText", [], none, none, "Page"⟩
    let page := Interface.ofDeclaration ⟨"Page", [], [setTitle, setText], []⟩ []
    let w := ((ofTrees []).newAdapter default page ⟨0, Path.root⟩).1
    let a : Adapter := ⟨0, page, ⟨0, Path.root⟩⟩
    dispatch 1 w a "setTitle" [.string "x"] =
        some (w, .error (.invalidSpec (.emptyPropertyName "setTitle"))) ∧
      dispatch 1 w a "setText" [] = some (w, .error (.readOnly "setText")) := by
  intro setTitle setText page w a
  let R := Registry.empty.attempt ⟨"Page", [], [setTitle, setText], []⟩
  have made : R.Made := .attempt .empty _
  have registered : R.get? "Page" = some a.interface := by decide +kernel
  have named : setTitle ∈ a.interface.methods := List.mem_cons_self
  have plain : setText ∈ a.interface.methods := List.mem_cons_of_mem _ List.mem_cons_self
  constructor
  · have arity : [Value.string "x"].length = setTitle.arity := rfl
    have setter : setTitle.category (w.factoryOf a).settings = .propertySetter := by decide +kernel
    obtain ⟨e, answer, nothing, -⟩ := setter_fails made registered named arity w setter 0
    rw [answer, nothing (.explicit _ rfl (by decide +kernel))]
  · have arity : ([] : List Value).length = setText.arity := rfl
    have setter : setText.category (w.factoryOf a).settings = .propertySetter := by decide +kernel
    obtain ⟨e, answer, -, otherwise⟩ := setter_fails made registered plain arity w setter 0
    rw [answer, otherwise]
    intro nothing
    cases nothing with
    | explicit access metadata => cases metadata
    | derived _ _ _ _ separator => cases separator

end World
end TreeAdapter
