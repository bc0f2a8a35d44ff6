import TreeAdapter.Interface.Basic
import TreeAdapter.Number.Primes
import TreeAdapter.Path

/-!
# Identity of adapters

An adapter is one interface over one resource. Its identity is the exposed interface set and the
path of the resource, so two adapters built apart are equal and hash alike when these agree.
-/

namespace TreeAdapter
set_option autoImplicit false

/-- A node of one of the trees of a world, by its path. -/
structure Resource where
  tree : Nat
  path : Path
deriving DecidableEq

namespace Resource

def name (r : Resource) : String :=
  r.path.name

def text (r : Resource) : String :=
  "Resource(" ++ r.path.text ++ ")"

end Resource

/-- A handle to an adapter: its number in the world, its interface and its backing resource. -/
structure Adapter where
  id : Nat
  interface : Interface
  resource : Resource
deriving DecidableEq

/-- The multiplier of the hash of texts, 31. -/
def textMultiplier : Int64 := Int64.ofNat (Number.prime 11)

/-- Polynomial hash of a text, in 64 bits. -/
def textHash (s : String) : Int64 :=
  s.toList.foldl (fun h c => h * textMultiplier + Int64.ofNat c.toNat) 0

namespace Adapter

/-- The multiplier of the names and of what they are added to, 3. -/
def nameMultiplier : Int64 := Int64.ofNat (Number.prime 2)

/-- The multiplier of the exposed names together, 5. -/
def exposedMultiplier : Int64 := Int64.ofNat (Number.prime 3)

/-- Sets the hashes of adapters apart from those of other texts. -/
def hashSeed : Int64 := textHash "treeproxy::adapter::Adapter"

/-- The hashes of the exposed names in order, each added to a multiple of those before it. -/
def exposedHash (exposed : NameSet) : Int64 :=
  exposed.keys.foldl (fun h name => h * nameMultiplier + textHash name) 0

def hash (a : Adapter) : Int64 :=
  hashSeed * nameMultiplier + exposedHash a.interface.exposed * exposedMultiplier +
    textHash a.resource.path.text

/-- The same exposed interfaces over the same path. -/
def sameIdentity (a b : Adapter) : Bool :=
  decide (a.interface.exposed = b.interface.exposed) &&
    decide (a.resource.path = b.resource.path)

def implements (a : Adapter) (interface : String) : Bool :=
  a.interface.implements interface

def text (a : Adapter) : String :=
  "Adapter<" ++ a.interface.name ++ ">(" ++ a.resource.path.text ++ ")"

end Adapter

end TreeAdapter
