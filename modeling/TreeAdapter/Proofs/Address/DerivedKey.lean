import Mathlib.Data.Bool.AllAny
import TreeAdapter.Proofs.Address

/-!
# Keys that getters are named after

A getter without metadata bears the name of its key: `get`, then the key with placeholders for the
namespace separators and its first letter as a capital. Each step is undone where `bean_name` and
`resolve_property` derive the key again, whatever placeholder and separator are configured
(`uncapitalized_capitalized`, `restored_spelled`). What `bean_suffix` lets a name of the convention
hold is not configured, however: a placeholder other than a letter, a number or the underscore
stands in no such name, and the getter of a key with a separator is then not recognized as one.

* `getterOf_restores` — what a getter named after a key is, and where it looks
-/

namespace TreeAdapter
set_option autoImplicit false
open Text

/-! ## Names behind a word -/

namespace Convention

/-- What a name of the convention is made of. -/
def isNameChar (c : Char) : Bool :=
  isAlphanumeric c || c == '_'

/-- The letters and digits here are those of ASCII. -/
theorem toNat_lt_of_isAlphanum {c : Char} (h : c.isAlphanum = true) : c.toNat < 128 := by
  delta Char.isAlphanum Char.isAlpha Char.isUpper Char.isLower Char.isDigit at h
  simp only [ge_iff_le, UInt32.le_iff_toNat_le, Char.toNat_val, Char.reduceVal,
    UInt32.reduceToNat, Bool.or_eq_true, Bool.and_eq_true, decide_eq_true_eq] at h
  omega

theorem isAlphanum_of_isLower {c : Char} (h : c.isLower = true) : c.isAlphanum = true := by
  show ((c.isUpper || c.isLower) || c.isDigit) = true
  rw [h, Bool.or_true, Bool.true_or]

theorem isNameChar_of_isAlphanum {c : Char} (h : c.isAlphanum = true) : isNameChar c = true := by
  have ascii := toNat_lt_of_isAlphanum h
  rw [Char.isAlphanum] at h
  rw [isNameChar, isAlphanumeric, isAlphabetic_of_lt ascii, isNumeric_of_lt ascii, h, Bool.true_or]

/-- The first letter as a capital. -/
def capitalized : List Char → List Char
  | [] => []
  | c :: cs => c.toUpper :: cs

/-- Capitals and small letters of ASCII correspond, which takes a look at each. -/
theorem capital_of_lt : ∀ n < 128, (Char.ofNat n).isLower = true →
    (Char.ofNat n).toUpper.isAlphanum = true ∧ (Char.ofNat n).toUpper.isUpper = true ∧
      (Char.ofNat n).toUpper.toLower = Char.ofNat n := by
  decide

/-- The capital of a small letter, and the small letter of that. -/
theorem capital_of_isLower {c : Char} (h : c.isLower = true) :
    isUppercase c.toUpper = true ∧ isNameChar c.toUpper = true ∧ lowerCase c.toUpper = [c] := by
  have ascii := toNat_lt_of_isAlphanum (isAlphanum_of_isLower h)
  obtain ⟨letter, upper, back⟩ := capital_of_lt c.toNat ascii (by rwa [Char.ofNat_toNat])
  rw [Char.ofNat_toNat] at letter upper back
  have small := toNat_lt_of_isAlphanum letter
  refine ⟨?_, isNameChar_of_isAlphanum letter, ?_⟩
  · rw [isUppercase_of_lt small, upper]
  · rw [lowerCase_of_lt small, back]

/-- A word that begins with a small letter is what is left of its capitalization. -/
theorem uncapitalized_capitalized {c : Char} (h : c.isLower = true) (cs : List Char) :
    uncapitalized (capitalized (c :: cs)) = c :: cs := by
  rw [capitalized, uncapitalized, (capital_of_isLower h).2.2, List.singleton_append]

/-- A capitalized word names a property when the rest of it is made of name characters. -/
theorem isCapitalized_capitalized {c : Char} (h : c.isLower = true) (cs : List Char) :
    isCapitalized (capitalized (c :: cs)) = cs.all isNameChar := by
  obtain ⟨upper, name, -⟩ := capital_of_isLower h
  have whole : (c.toUpper :: cs).all isNameChar = cs.all isNameChar := by
    rw [List.all_cons, name, Bool.true_and]
  rw [capitalized, isCapitalized, upper, Bool.true_and]
  exact whole

/-- Behind a word that begins a text stands the rest, if it is capitalized. -/
theorem behind_append (word : String) (rest : List Char) :
    behind word (word.toList ++ rest) = if isCapitalized rest then some rest else none := by
  have dropped : (word.toList ++ rest).drop word.length = rest := by
    rw [← String.length_toList, List.drop_left]
  simp [behind, dropped]

/-- A name behind `get` is found when it is capitalized. -/
theorem behind_get (name : String) :
    behind "get" ("get" ++ name).toList =
      if isCapitalized name.toList then some name.toList else none := by
  rw [String.toList_append, behind_append]

/-- No name begins with `get` and with another word of the convention. -/
theorem behind_of_get (name : String) :
    behind "is" ("get" ++ name).toList = none ∧ behind "set" ("get" ++ name).toList = none := by
  rw [String.toList_append]
  exact ⟨rfl, rfl⟩

/-- A capitalized name behind `get` names the property of that name, with its first letter small. -/
theorem propertyName_get {name : String} (h : isCapitalized name.toList = true) :
    propertyName ("get" ++ name) = some (String.ofList (uncapitalized name.toList)) := by
  rw [propertyName, behind_get, if_pos h]
  rfl

end Convention

/-! ## Placeholders for separators -/

namespace Settings

/-- A key as it stands in names, placeholders for its separators. -/
def spelled (s : Settings) (key : List Char) : List Char :=
  key.map fun c => if c = s.namespaceSeparator then s.namespacePlaceholder else c

/-- The name of the getter of a key. -/
def getterName (s : Settings) (key : String) : String :=
  "get" ++ String.ofList (Convention.capitalized (s.spelled key.toList))

/-- A key that a getter can be named after: a small letter other than the separator, then letters,
digits and separators, and no placeholder among them. -/
structure IsNameable (s : Settings) (key : String) : Prop where
  first : ∃ c ∈ key.toList.head?, c.isLower = true ∧ c ≠ s.namespaceSeparator
  rest : ∀ c ∈ key.toList.tail, c.isAlphanum = true ∨ c = s.namespaceSeparator
  free : s.namespacePlaceholder ∉ key.toList

/-- Names of the convention may hold what stands for the separators of the key, if it has any. -/
def Spells (s : Settings) (key : String) : Prop :=
  s.namespaceSeparator ∈ key.toList → Convention.isNameChar s.namespacePlaceholder = true

instance (s : Settings) (key : String) : Decidable (s.Spells key) :=
  inferInstanceAs (Decidable (_ → _))

variable {s : Settings}

/-- Separators in place of placeholders again. -/
theorem restored_spelled {key : List Char} (free : s.namespacePlaceholder ∉ key) :
    (s.spelled key).map
      (fun c => if c = s.namespacePlaceholder then s.namespaceSeparator else c) = key := by
  rw [spelled, List.map_map]
  refine (List.map_congr_left fun c mem => ?_).trans (List.map_id key)
  have apart : c ≠ s.namespacePlaceholder := fun same => free (same ▸ mem)
  by_cases here : c = s.namespaceSeparator <;> simp [here, apart]

/-- A nameable key begins with a small letter, which spelling leaves alone. -/
theorem IsNameable.exists_cons {key : String} (h : s.IsNameable key) :
    ∃ c cs, key.toList = c :: cs ∧ c.isLower = true ∧ c ≠ s.namespaceSeparator ∧
      s.spelled key.toList = c :: s.spelled cs := by
  obtain ⟨c, head, small, apart⟩ := h.first
  obtain ⟨cs, whole⟩ := List.head?_eq_some_iff.1 head
  exact ⟨c, cs, whole, small, apart, by simp [whole, spelled, apart]⟩

/-- The name of the getter is one of the convention if its placeholders may stand there. -/
theorem IsNameable.isCapitalized_iff {key : String} (h : s.IsNameable key) :
    Convention.isCapitalized (Convention.capitalized (s.spelled key.toList)) = true ↔
      s.Spells key := by
  obtain ⟨c, cs, whole, small, apart, spelling⟩ := h.exists_cons
  rw [spelling, Convention.isCapitalized_capitalized small, List.all_eq_true, spelled,
    List.forall_mem_map]
  constructor
  · intro names mem
    have behind : s.namespaceSeparator ∈ cs := by
      rw [whole] at mem
      exact List.mem_of_ne_of_mem (Ne.symm apart) mem
    simpa using names _ behind
  · intro spells d mem
    by_cases here : d = s.namespaceSeparator
    · rw [if_pos here]
      exact spells (by rw [whole, ← here]; exact List.mem_cons_of_mem c mem)
    · rw [if_neg here]
      have letter := h.rest d (by rw [whole]; exact mem)
      exact Convention.isNameChar_of_isAlphanum (letter.resolve_right here)

/-- The key derived from the name of a getter is the one that the getter is named for. -/
theorem IsNameable.derivedKey_getterName {key : String} (h : s.IsNameable key)
    (spells : s.Spells key) : Addressing.derivedKey (s.getterName key) s = key := by
  have capital := h.isCapitalized_iff.2 spells
  obtain ⟨c, cs, -, small, -, spelling⟩ := h.exists_cons
  have name : Convention.propertyName (s.getterName key) =
      some (String.ofList (s.spelled key.toList)) := by
    rw [getterName, Convention.propertyName_get (by rwa [String.toList_ofList]),
      String.toList_ofList, spelling, Convention.uncapitalized_capitalized small]
  rw [Addressing.derivedKey, name]
  simp only [String.toList_ofList]
  rw [restored_spelled h.free, String.ofList_toList]

/-- A nameable key holds no slash unless the separator is one. -/
theorem IsNameable.slash_notMem {key : String} (h : s.IsNameable key)
    (plain : s.namespaceSeparator ≠ '/') : '/' ∉ key.toList := by
  obtain ⟨c, cs, whole, small, -⟩ := h.exists_cons
  intro mem
  rw [whole, List.mem_cons] at mem
  rcases mem with rfl | later
  · exact absurd small (by decide)
  · rcases h.rest '/' (by rw [whole]; exact later) with letter | same
    · exact absurd letter (by decide)
    · exact plain same.symm

end Settings

/-! ## Getters -/

/-- No identity method is named like a getter. -/
theorem IdentityMethod.ofName?_get (name : String) : ofName? ("get" ++ name) = none := by
  have apart (word : String) (other : word.toList.head? ≠ some 'g') : "get" ++ name ≠ word := by
    rintro rfl
    simp at other
  unfold ofName?
  split
  · next same => exact absurd same (apart _ (by decide))
  · next same => exact absurd same (apart _ (by decide))
  · next same => exact absurd same (apart _ (by decide))
  · rfl

namespace Method

/-- The getter without metadata that is named after `key`. -/
def getterOf (s : Settings) (key : String) (returns : DeclaredType) (declaredIn : String) :
    Method where
  name := s.getterName key
  params := []
  returns := some returns
  accessor := none
  declaredIn := declaredIn

variable {s : Settings} {key : String} (h : s.IsNameable key)
  (other : s.getterName key ≠ s.backingResourceMethod)
  (returns : DeclaredType) (declaredIn : String)

include h other

/-- A getter named for a key is one when its name spells the key, and unrecognized when it does not.
-/
theorem category_getterOf : (getterOf s key returns declaredIn).category s =
    if s.Spells key then .propertyGetter else .unrecognized := by
  have noIdentity : IdentityMethod.ofName? (s.getterName key) = none :=
    IdentityMethod.ofName?_get _
  have get : Convention.startsWith "get" (s.getterName key) = decide (s.Spells key) := by
    rw [Convention.startsWith, Settings.getterName, Convention.behind_get, String.toList_ofList]
    by_cases spells : s.Spells key <;> simp [h.isCapitalized_iff, spells]
  obtain ⟨noIs, noSet⟩ := Convention.behind_of_get
    (String.ofList (Convention.capitalized (s.spelled key.toList)))
  have is : Convention.startsWith "is" (s.getterName key) = false := by
    rw [Convention.startsWith, Settings.getterName, noIs, Option.isSome_none]
  have set : Convention.startsWith "set" (s.getterName key) = false := by
    rw [Convention.startsWith, Settings.getterName, noSet, Option.isSome_none]
  simp [category, isGetter, isSetter, getterOf, noIdentity, other, get, is, set]

/-- A getter named after a key gives the key back, at the backing resource, if the placeholders in
its name are letters, numbers or underscores; else it is not recognized, and looks nowhere. -/
theorem getterOf_restores (plain : s.namespaceSeparator ≠ '/') :
    (getterOf s key returns declaredIn).category s =
        (if s.Spells key then .propertyGetter else .unrecognized) ∧
      (getterOf s key returns declaredIn).address s =
        .ok (if s.Spells key then some ⟨"", key, true, key ++ "#" ++ returns.text⟩ else none) := by
  have kind := category_getterOf h other returns declaredIn
  refine ⟨kind, ?_⟩
  rw [address, kind]
  by_cases spells : s.Spells key
  · have nonempty : key ≠ "" := by
      obtain ⟨c, cs, whole, -⟩ := h.exists_cons
      rintro rfl
      cases whole
    have property : Addressing.property (getterOf s key returns declaredIn) s =
        .ok ⟨"", key, true, key ++ "#" ++ returns.text⟩ := by
      simp [Addressing.property, Addressing.propertyParts, Addressing.propertyCacheKey,
        Addressing.under, getterOf, h.derivedKey_getterName spells,
        Addressing.locate_of_notMem (h.slash_notMem plain), nonempty]
    rw [if_pos spells, if_pos spells, addressFor, property]
    rfl
  · rw [if_neg spells, if_neg spells]
    rfl

end Method

/-- The standard settings with the dollar as placeholder. -/
def Settings.dollars : Settings :=
  { Settings.standard with namespacePlaceholder := '$' }

/-- `getJcr_title` reads `jcr:title` under the standard settings. With the dollar as placeholder,
`getJcr$title` is no getter. -/
theorem Method.getterOf_restores_title :
    ((getterOf .standard "jcr:title" .string "Page").name = "getJcr_title" ∧
      (getterOf .standard "jcr:title" .string "Page").category .standard = .propertyGetter ∧
      (getterOf .standard "jcr:title" .string "Page").address .standard =
        .ok (some ⟨"", "jcr:title", true, "jcr:title#String"⟩)) ∧
    Settings.dollars.IsValid ∧
      (getterOf .dollars "jcr:title" .string "Page").name = "getJcr$title" ∧
      (getterOf .dollars "jcr:title" .string "Page").category .dollars = .unrecognized ∧
      (getterOf .dollars "jcr:title" .string "Page").address .dollars = .ok none := by
  have standard : Settings.standard.IsNameable "jcr:title" :=
    ⟨⟨'j', by decide, by decide, by decide⟩, List.all_iff_forall_prop.1 (by decide), by decide⟩
  have dollars : Settings.dollars.IsNameable "jcr:title" :=
    ⟨⟨'j', by decide, by decide, by decide⟩, List.all_iff_forall_prop.1 (by decide), by decide⟩
  have restored := getterOf_restores standard (by decide) .string "Page" (by decide)
  have lost := getterOf_restores dollars (by decide) .string "Page" (by decide)
  have spells : Settings.standard.Spells "jcr:title" := by decide
  have notSpells : ¬ Settings.dollars.Spells "jcr:title" := by decide
  rw [if_pos spells, if_pos spells] at restored
  rw [if_neg notSpells, if_neg notSpells] at lost
  exact ⟨⟨by decide, restored⟩, rfl, by decide, lost⟩

end TreeAdapter
