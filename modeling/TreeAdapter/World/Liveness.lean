import TreeAdapter.World.Basic

/-!
# Which adapters are alive

An adapter lives as long as something holds on to it: a value outside the world, or the cache of
an adapter that lives. Services and child collections hold no adapters.
-/

namespace TreeAdapter.World
set_option autoImplicit false

/-- The adapters that the cache of an adapter holds. -/
def ownedBy (w : World) (id : Nat) : List Nat :=
  (w.adapter id).cache.flatMap fun entry => entry.2.heldAdapters

/-- `ids` with all that they own, directly and through one another, in so many rounds. -/
def closure (w : World) : Nat → List Nat → List Nat
  | 0, ids => ids
  | rounds + 1, ids =>
    let new := (ids.flatMap w.ownedBy).filter fun id => !ids.contains id
    if new.isEmpty then ids else closure w rounds (ids ++ new.eraseDups)

/-- The adapters that live while `values` are held. -/
def living (w : World) (values : List Value) : List Nat :=
  closure w w.adapters.size (values.flatMap Value.heldAdapters)

def isAlive (w : World) (values : List Value) (a : Adapter) : Bool :=
  (w.living values).contains a.id

end TreeAdapter.World
