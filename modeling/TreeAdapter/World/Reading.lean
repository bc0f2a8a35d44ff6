import TreeAdapter.Address
import TreeAdapter.Value.Cast
import TreeAdapter.World.Adapting

/-!
# Accessors

How property, reference and children getters find their answers. An answer is computed once for
each cache key of an adapter and kept; a failure is not kept.
-/

namespace TreeAdapter.World
set_option autoImplicit false

/-- The answer under a cache key, or what `compute` answers, which is then kept. -/
def memoized (w : World) (a : Adapter) (key : String) (compute : World → World × Outcome) :
    World × Outcome :=
  match w.cached a key with
  | some v => (w, .ok v)
  | none =>
    match compute w with
    | (w, .ok v) => (w.store a key v, .ok v)
    | (w, .error e) => (w, .error e)

/-- A key as lenient matching sees it: in lower case and without separators. -/
def lenientKey (separator : Char) (key : String) : List Char :=
  (key.toList.filter (· != separator)).flatMap Text.lowerCase

/-- The first property name, in order, that a key matches leniently. -/
def lenientMatch (separator : Char) (names : List String) (key : String) : Option String :=
  names.find? fun name => lenientKey separator name == lenientKey separator key

/-- The stored value at an address on a resource: under the exact key, or, for a derived key when
the settings are lenient, under the first name that matches. -/
def readProperty (w : World) (settings : Settings) (r : Resource) (address : Address) :
    Option StoredValue :=
  match w.property? r address.key with
  | some v => some v
  | none =>
    if address.derived && settings.lenientKeys then
      (lenientMatch settings.namespaceSeparator (w.propertyNames r) address.key).bind (w.property? r)
    else none

/-- The stored value that a property getter reads. -/
def rawProperty (w : World) (settings : Settings) (r : Resource) (address : Address) :
    Option StoredValue :=
  (w.resolve r address.path).bind fun r => w.readProperty settings r address

/-- What stands in for an absent property. -/
def fallbackOf (m : Method) : Option StoredValue :=
  match m.accessor with
  | some (.property access) => if access.useFallback then access.fallback.map (·.toStored) else none
  | _ => none

/-- The answer of a property getter from the tree. -/
def propertyAnswer (w : World) (settings : Settings) (r : Resource) (m : Method)
    (address : Address) : Outcome :=
  let raw := (w.rawProperty settings r address).or (fallbackOf m)
  match cast raw (m.returns.getD .string) with
  | .ok v => .ok v
  | .error e => .error (.coercion e)

def getProperty (w : World) (a : Adapter) (m : Method) (address : Address) : World × Outcome :=
  w.memoized a address.cacheKey fun w =>
    (w, w.propertyAnswer (w.factoryOf a).settings a.resource m address)

/-- The answer of a reference getter from the tree. -/
def referenceAnswer (w : World) (factory : Factory) (r : Resource) (m : Method)
    (address : Address) : World × Value :=
  match w.resolve r address.path with
  | some target => w.materialize factory target (m.returns.getD .resource)
  | none => (w, .null)

def getReference (w : World) (a : Adapter) (m : Method) (address : Address) : World × Outcome :=
  w.memoized a address.cacheKey fun w =>
    let (w, v) := w.referenceAnswer (w.factoryOf a) a.resource m address
    (w, .ok v)

/-- The children that a children getter lists, in the order of the tree. -/
def listedChildren (w : World) (factory : Factory) (r : Resource) (access : ChildrenAccess)
    (address : Address) : List Resource :=
  match w.resolve r address.path with
  | none => []
  | some parent =>
    (w.childrenOf parent).filter fun child =>
      access.filter.accepts factory (w.tree child.tree) child.path

def getChildren (w : World) (a : Adapter) (access : ChildrenAccess) (address : Address) :
    World × Outcome :=
  w.memoized a address.cacheKey fun w =>
    let factory := w.factoryOf a
    let (w, c) := w.newChildren factory access.element
      ((w.listedChildren factory a.resource access address).map some)
    (w, .ok (.children c))

end TreeAdapter.World
