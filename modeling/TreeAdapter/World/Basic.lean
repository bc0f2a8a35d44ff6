import TreeAdapter.World.Factory

/-!
# Worlds

All that changes: the trees, and for each adapter, child collection and service that was ever
made, its state. They are numbered in the order they were made, and handles name them by their
numbers.
-/

namespace TreeAdapter
set_option autoImplicit false

/-- The state of an adapter. -/
structure AdapterState where
  factory : Factory
  /-- The answers of accessors by their cache keys. -/
  cache : List (String × Value)
  /-- The services that were built, by the interface they are bound for. -/
  services : List (String × Nat)
deriving Inhabited

/-- What a child collection still holds. An entry without a resource is delivered as `null`. -/
structure Cursor where
  factory : Factory
  /-- The entry that a look ahead has taken from the rest; no entry when it has found the end. -/
  ahead : Option (Option (Option Resource))
  rest : List (Option Resource)
deriving Inhabited

namespace Cursor

/-- A look at the next entry, which stays the next one; whether there is one. -/
def peek (c : Cursor) : Cursor × Bool :=
  match c.ahead with
  | some entry => (c, entry.isSome)
  | none => ({ c with ahead := some c.rest.head?, rest := c.rest.tail }, c.rest.head?.isSome)

/-- Takes the next entry. -/
def take (c : Cursor) : Cursor × Option (Option Resource) :=
  match c.ahead with
  | some entry => ({ c with ahead := none }, entry)
  | none => ({ c with rest := c.rest.tail }, c.rest.head?)

end Cursor

/-- A service that was built for an adapter. -/
structure ServiceState where
  service : Service
  calls : Nat

structure World where
  trees : List Tree
  adapters : Array AdapterState
  cursors : Array Cursor
  services : Array ServiceState
  /-- How many objects trees have given. -/
  objects : Nat
  /-- How often services have been searched for. -/
  searches : Nat

namespace World

/-- A world of trees in which nothing has been made yet. -/
def ofTrees (trees : List Tree) : World :=
  ⟨trees, #[], #[], #[], 0, 0⟩

def tree (w : World) (n : Nat) : Tree :=
  w.trees.getD n Tree.empty

def setTree (w : World) (n : Nat) (t : Tree) : World :=
  { w with trees := w.trees.set n t }

/-- Whether a resource is a node of its tree now. -/
def holds (w : World) (r : Resource) : Bool :=
  (w.tree r.tree).contains r.path

/-- The resource at an absolute path. -/
def openPath (w : World) (tree : Nat) (path : String) : Option Resource :=
  match Path.parse path with
  | .error _ => none
  | .ok p => if w.holds ⟨tree, p⟩ then some ⟨tree, p⟩ else none

/-- The resource at an absolute path, which has to be there. -/
def requirePath (w : World) (tree : Nat) (path : String) : Except TreeError Resource :=
  match w.openPath tree path with
  | some r => .ok r
  | none => .error (.notFound path)

/-- The resource that a path leads to from `r`; the empty path is `r` itself, there or not. -/
def resolve (w : World) (r : Resource) (path : String) : Option Resource :=
  ((w.tree r.tree).resolve r.path path).map fun p => ⟨r.tree, p⟩

def parent? (w : World) (r : Resource) : Option Resource :=
  w.resolve r ".."

def childrenOf (w : World) (r : Resource) : List Resource :=
  ((w.tree r.tree).childPaths r.path).map fun p => ⟨r.tree, p⟩

def property? (w : World) (r : Resource) (name : String) : Option StoredValue :=
  (w.tree r.tree).property? r.path name

def propertyNames (w : World) (r : Resource) : List String :=
  (w.tree r.tree).propertyNames r.path

def adapter (w : World) (id : Nat) : AdapterState :=
  w.adapters.getD id default

def factoryOf (w : World) (a : Adapter) : Factory :=
  (w.adapter a.id).factory

def cursor (w : World) (id : Nat) : Cursor :=
  w.cursors.getD id default

def setCursor (w : World) (id : Nat) (c : Cursor) : World :=
  { w with cursors := w.cursors.setIfInBounds id c }

/-- The answer kept under a cache key. -/
def cached (w : World) (a : Adapter) (key : String) : Option Value :=
  ((w.adapter a.id).cache.find? (·.1 == key)).map (·.2)

/-- Keeps an answer under a cache key. -/
def store (w : World) (a : Adapter) (key : String) (value : Value) : World :=
  { w with adapters := w.adapters.modify a.id fun s => { s with cache := (key, value) :: s.cache } }

/-- The service that an adapter has for an interface. -/
def service? (w : World) (a : Adapter) (interface : String) : Option Nat :=
  ((w.adapter a.id).services.find? (·.1 == interface)).map (·.2)

/-- A new adapter of an interface over a resource, with an empty cache. -/
def newAdapter (w : World) (factory : Factory) (i : Interface) (r : Resource) : World × Adapter :=
  ({ w with adapters := w.adapters.push ⟨factory, [], []⟩ }, ⟨w.adapters.size, i, r⟩)

/-- A new child collection over resources, each to be delivered as an `element`. -/
def newChildren (w : World) (factory : Factory) (element : DeclaredType)
    (resources : List (Option Resource)) : World × Children :=
  ({ w with cursors := w.cursors.push ⟨factory, none, resources⟩ }, ⟨w.cursors.size, element⟩)

/-- A search for a service counts, whatever it finds. -/
def countSearch (w : World) : World :=
  { w with searches := w.searches + 1 }

/-- A new service, which an adapter has for an interface from now on. -/
def newService (w : World) (a : Adapter) (interface : String) (service : Service) : World × Nat :=
  ({ w with
      services := w.services.push ⟨service, 0⟩
      adapters := w.adapters.modify a.id fun s =>
        { s with services := (interface, w.services.size) :: s.services } }, w.services.size)

/-- The object of a named type that the tree gives for a resource. -/
def adaptObject (w : World) (r : Resource) (target : String) : Option (World × TreeObject) :=
  ((w.tree r.tree).adapt? r.path target).map fun properties =>
    ({ w with objects := w.objects + 1 }, ⟨w.objects, properties⟩)

end World
end TreeAdapter
