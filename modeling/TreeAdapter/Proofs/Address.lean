import TreeAdapter.Address
import TreeAdapter.Proofs.Except
import TreeAdapter.Proofs.Path

/-!
# Laws of addresses

The address of a property, as `resolve_property` makes it, is a path and a key. The key is the leaf
of the property name and holds no separator, so both can be read back from where the property lies
(`under_inj`), up to the separators at the end of the path.
-/

namespace TreeAdapter
set_option autoImplicit false

namespace Addressing

/-- The leaf of a property name holds no separator. -/
theorem slash_notMem_leaf (path name : String) : '/' ∉ (locate path name).2.toList := by
  unfold locate
  split
  · next cut =>
    rw [String.toList_ofList]
    exact (Text.cutLast_eq_some cut).2
  · next cut => exact Text.cutLast_eq_none cut

/-- A name without separators stays where it is. -/
theorem locate_of_notMem {name : String} (leaf : '/' ∉ name.toList) (path : String) :
    locate path name = (path, name) := by
  rw [locate]
  cases cut : Text.cutLast '/' name.toList with
  | none => rfl
  | some parts =>
    have split := (Text.cutLast_eq_some cut).1
    exact absurd (by simp [split]) leaf

theorem toList_under {path : String} (h : path ≠ "") (below : String) :
    (under path below).toList =
      Text.dropTrailing (· == '/') path.toList ++ '/' :: below.toList := by
  rw [under, if_neg h]
  simp

/-- Path and key of where a property lies. -/
theorem under_inj {path path' key key' : String} (leaf : '/' ∉ key.toList)
    (leaf' : '/' ∉ key'.toList) (h : under path key = under path' key') :
    key = key' ∧ (path = "" ↔ path' = "") ∧
      Text.dropTrailing (· == '/') path.toList = Text.dropTrailing (· == '/') path'.toList := by
  by_cases own : path = "" <;> by_cases own' : path' = ""
  · subst own own'
    rw [under, under, if_pos rfl, if_pos rfl] at h
    exact ⟨h, Iff.rfl, rfl⟩
  · have apart := congrArg String.toList h
    rw [own, under, if_pos rfl, toList_under own'] at apart
    rw [apart] at leaf
    simp at leaf
  · have apart := congrArg String.toList h
    rw [own', under.eq_def "" key', if_pos rfl, toList_under own] at apart
    rw [← apart] at leaf'
    simp at leaf'
  · have same := congrArg String.toList h
    rw [toList_under own, toList_under own'] at same
    obtain ⟨paths, keys⟩ := Text.behind_inj leaf leaf' same
    exact ⟨String.toList_inj.1 keys, by simp [own, own'], paths⟩

theorem property_eq_ok {m : Method} {settings : Settings} {address : Address}
    (h : property m settings = .ok address) :
    '/' ∉ address.key.toList ∧ address.cacheKey = propertyCacheKey m address.path address.key := by
  unfold property at h
  dsimp only at h
  split at h
  · split at h
    · cases h
    · split at h
      · cases h
      · cases h
        exact ⟨slash_notMem_leaf _ _, rfl⟩
  · split at h
    · cases h
    · cases h
      exact ⟨slash_notMem_leaf _ _, rfl⟩

end Addressing

namespace Method

/-- What stands in for an absent property: nothing unless a default is in use, which may itself
be missing. -/
def usedFallback (m : Method) : Option (Option DefaultValue) :=
  match m.accessor with
  | some (.property access) => if access.useFallback then some access.fallback else none
  | _ => none

theorem propertyCacheKey_eq (m : Method) (path key : String) :
    Addressing.propertyCacheKey m path key =
      Addressing.under path key ++ "#" ++ (m.returns.getD .string).text ++
        (m.usedFallback.map Addressing.fallbackKey).getD "" := by
  unfold Addressing.propertyCacheKey usedFallback
  cases m.accessor with
  | none => rfl
  | some accessor =>
    cases accessor with
    | property access => cases used : access.useFallback <;> simp [used]
    | reference _ => rfl
    | children _ => rfl

variable {m : Method} {settings : Settings}

theorem requiredAddress_of_address
    (h : m.address settings = (Addressing.property m settings).map some) :
    m.requiredAddress settings = Addressing.property m settings := by
  rw [requiredAddress, h]
  cases Addressing.property m settings <;> rfl

theorem requiredAddress_of_propertyGetter (h : m.category settings = .propertyGetter) :
    m.requiredAddress settings = Addressing.property m settings := by
  apply requiredAddress_of_address
  rw [address, h, addressFor]

/-- A setter has the address that a getter would have. -/
theorem requiredAddress_of_propertySetter (h : m.category settings = .propertySetter) :
    m.requiredAddress settings = Addressing.property m settings := by
  apply requiredAddress_of_address
  rw [address, h, addressFor]

end Method
end TreeAdapter
