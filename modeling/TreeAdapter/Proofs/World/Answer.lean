import TreeAdapter.Proofs.World.Cache

/-!
# What answers depend on

Two values agree when a client cannot tell them apart but by asking for the same instance. What a
getter computes depends, up to agreement, on nothing but the trees, the factory, the resource and
the method (`computed_agrees`).
-/

namespace TreeAdapter
set_option autoImplicit false

/-- The same value, where adapters count by their identity and objects by what they hold. -/
inductive Value.Agrees : Value → Value → Prop where
  | same (v : Value) : Agrees v v
  | adapter {a b : Adapter} (h : a.sameIdentity b = true) : Agrees (.adapter a) (.adapter b)
  | object {o p : TreeObject} (h : o.properties = p.properties) : Agrees (.object o) (.object p)

/-- Adapters are the same in identity when they expose the same names at one path. -/
theorem Adapter.sameIdentity_iff {a b : Adapter} :
    a.sameIdentity b = true ↔
      a.interface.exposed = b.interface.exposed ∧ a.resource.path = b.resource.path := by
  simp [sameIdentity]

namespace Value.Agrees

theorem symm {u v : Value} (h : u.Agrees v) : v.Agrees u := by
  cases h with
  | same => exact .same u
  | adapter h =>
    rw [Adapter.sameIdentity_iff] at h
    exact .adapter (Adapter.sameIdentity_iff.2 ⟨h.1.symm, h.2.symm⟩)
  | object h => exact .object h.symm

theorem trans {u v x : Value} (first : u.Agrees v) (second : v.Agrees x) : u.Agrees x := by
  cases first with
  | same => exact second
  | adapter h =>
    cases second with
    | same => exact .adapter h
    | adapter k =>
      rw [Adapter.sameIdentity_iff] at h k
      exact .adapter (Adapter.sameIdentity_iff.2 ⟨h.1.trans k.1, h.2.trans k.2⟩)
  | object h =>
    cases second with
    | same => exact .object h
    | object k => exact .object (h.trans k)

end Value.Agrees

/-- Values that agree, or the same failure. -/
inductive Outcome.Agrees : Outcome → Outcome → Prop where
  | ok {u v : Value} (h : u.Agrees v) : Agrees (.ok u) (.ok v)
  | error (e : AdapterError) : Agrees (.error e) (.error e)

namespace Outcome.Agrees

theorem refl (o : Outcome) : Outcome.Agrees o o := by
  cases o with
  | error e => exact .error e
  | ok v => exact .ok (.same v)

theorem symm {o p : Outcome} (h : Outcome.Agrees o p) : Outcome.Agrees p o := by
  cases h with
  | ok h => exact .ok h.symm
  | error e => exact .error e

theorem trans {o p q : Outcome} (first : Outcome.Agrees o p) (second : Outcome.Agrees p q) :
    Outcome.Agrees o q := by
  cases first with
  | error e => exact second
  | ok h =>
    cases second with
    | ok k => exact .ok (h.trans k)

end Outcome.Agrees

/-- The getters of properties and references. -/
def Category.isReading : Category → Bool
  | propertyGetter | referenceGetter => true
  | _ => false

namespace World

/-! ## Nothing else counts -/

section SameTrees
variable {u w : World} (same : u.trees = w.trees)
include same

/-- Worlds over the same trees have the same tree under each index. -/
theorem tree_congr : u.tree = w.tree := by
  funext n
  rw [tree, same, tree]

/-- Worlds over the same trees resolve a path alike. -/
theorem resolve_congr (r : Resource) (path : String) : u.resolve r path = w.resolve r path := by
  rw [resolve, tree_congr same, resolve]

/-- Worlds over the same trees give one answer for a property. -/
theorem propertyAnswer_congr (settings : Settings) (r : Resource) (m : Method) (address : Address) :
    u.propertyAnswer settings r m address = w.propertyAnswer settings r m address := by
  have read : u.readProperty settings = w.readProperty settings := by
    funext r address
    unfold readProperty property? propertyNames
    rw [tree_congr same]
  unfold propertyAnswer rawProperty
  rw [resolve_congr same, read]

/-- A resource becomes the same thing in two worlds of the same trees, if not the same instance. -/
theorem materialize_agrees (factory : Factory) (r : Resource) (declared : DeclaredType) :
    (u.materialize factory r declared).2.Agrees (w.materialize factory r declared).2 := by
  unfold materialize
  by_cases handle : declared = .resource
  · rw [if_pos handle, if_pos handle]
    exact .same _
  rw [if_neg handle, if_neg handle]
  unfold adaptObject adapt holds
  rw [tree_congr same]
  cases (w.tree r.tree).adapt? r.path declared.targetName with
  | some properties => exact .object rfl
  | none =>
    cases (w.tree r.tree).contains r.path with
    | false => exact .same _
    | true =>
      cases factory.interface declared.targetName with
      | error e => exact .same _
      | ok i => exact .adapter (Adapter.sameIdentity_iff.2 ⟨rfl, rfl⟩)

/-- Worlds over the same trees give answers for a reference that agree, new adapters apart. -/
theorem referenceAnswer_agrees (factory : Factory) (r : Resource) (m : Method) (address : Address) :
    (u.referenceAnswer factory r m address).2.Agrees (w.referenceAnswer factory r m address).2 := by
  unfold referenceAnswer
  rw [resolve_congr same]
  cases w.resolve r address.path with
  | none => exact .same _
  | some target => exact materialize_agrees same _ _ _

end SameTrees

/-- What a getter computes does not depend on which adapter computes it, nor on what else was
made before. -/
theorem computed_agrees {u w : World} {a b : Adapter} {m : Method} (address : Address)
    (same : u.trees = w.trees) (factory : u.factoryOf a = w.factoryOf b)
    (resource : a.resource = b.resource)
    (reading : (m.category (w.factoryOf b).settings).isReading = true) :
    Outcome.Agrees (u.computed a m address).2 (w.computed b m address).2 := by
  unfold computed
  rw [factory, resource]
  cases category : m.category (w.factoryOf b).settings with
  | propertyGetter =>
    rw [propertyAnswer_congr same]
    exact .refl _
  | referenceGetter => exact .ok (referenceAnswer_agrees same _ _ _ _)
  | _ => simp [category, Category.isReading] at reading

end World
end TreeAdapter
