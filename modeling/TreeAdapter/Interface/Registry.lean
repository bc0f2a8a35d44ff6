import TreeAdapter.Error
import TreeAdapter.Interface.Basic

/-!
# The registry

Interfaces by name. A declaration is registered when its parents are; a list of declarations is
registered in rounds, each of which takes those whose parents were registered before it.
-/

namespace TreeAdapter
set_option autoImplicit false

structure Registry where
  interfaces : NameMap Interface
deriving DecidableEq

namespace Registry

def empty : Registry := ⟨NameMap.empty⟩

def get? (r : Registry) (name : String) : Option Interface :=
  r.interfaces.get? name

def contains (r : Registry) (name : String) : Bool :=
  r.interfaces.contains name

def names (r : Registry) : List String :=
  r.interfaces.keys

def size (r : Registry) : Nat :=
  r.interfaces.size

/-- A text that can name an interface. -/
def isInterfaceName (name : String) : Bool :=
  match DeclaredType.identifier name.toList with
  | .ok _ => true
  | .error _ => false

/-- The parents of a declaration in order. -/
def parentsOf (r : Registry) (d : Declaration) : Except AdapterError (List Interface) :=
  d.parents.mapM fun parent =>
    match r.get? parent with
    | some i => .ok i
    | none => .error (.invalidSpec (.unknownParent d.name parent))

/-- A method has a name, and a reference a path. -/
def checkMethod (interface : String) (m : Method) : Except AdapterError Unit :=
  if Text.isBlankText m.name then .error (.invalidSpec (.namelessMethod interface))
  else match m.accessor with
    | some (.reference access) =>
      if Text.isBlankText access.path then
        .error (.invalidSpec (.referenceWithoutPath interface m.name))
      else .ok ()
    | _ => .ok ()

/-- Each method is well formed and clashes with none of those in `seen` or before it. -/
def checkMethods (interface : String) (seen : List Method) : List Method → Except AdapterError Unit
  | [] => .ok ()
  | m :: rest => do
    checkMethod interface m
    if seen.any (·.clashes m) then
      throw (.invalidSpec (.duplicateMethod interface m.name m.arity))
    checkMethods interface (seen ++ [m]) rest

/-- Each binding is for the interface itself or one that it extends. -/
def checkBindings (interface : String) (exposed : NameSet) :
    List ServiceBinding → Except AdapterError Unit
  | [] => .ok ()
  | b :: rest =>
    if exposed.contains b.service then checkBindings interface exposed rest
    else .error (.invalidSpec (.foreignBinding interface b.service))

/-- Registers one declaration, whose parents have to be registered. -/
def register (r : Registry) (d : Declaration) : Except AdapterError Registry := do
  if !isInterfaceName d.name then throw (.invalidSpec (.invalidInterfaceName d.name))
  if r.contains d.name then throw (.invalidSpec (.alreadyRegistered d.name))
  let interface := Interface.ofDeclaration d (← r.parentsOf d)
  checkMethods d.name [] d.methods
  checkBindings d.name interface.exposed d.services
  return ⟨r.interfaces.insert d.name interface⟩

/-- The parents of a declaration are all registered. -/
def isReady (r : Registry) (d : Declaration) : Bool :=
  d.parents.all r.contains

/-- The declarations that can be registered now. -/
def ready (r : Registry) (pending : List Declaration) : List Declaration :=
  pending.filter r.isReady

/-- The declarations that wait for others. -/
def waiting (r : Registry) (pending : List Declaration) : List Declaration :=
  pending.filter fun d => !r.isReady d

theorem length_waiting_lt {r : Registry} {pending : List Declaration} (h : r.ready pending ≠ []) :
    (r.waiting pending).length < pending.length := by
  refine List.length_filter_lt_length_iff_exists.2 ?_
  obtain ⟨d, hd⟩ := List.exists_mem_of_ne_nil _ h
  obtain ⟨hm, hr⟩ := List.mem_filter.1 hd
  exact ⟨d, hm, by simp [hr]⟩

/-- Registers declarations in rounds. -/
def registerAll (r : Registry) (pending : List Declaration) : Except AdapterError Registry :=
  if pending.isEmpty then .ok r
  else if _h : r.ready pending = [] then
    .error (.invalidSpec (.unresolvable (pending.map (·.name))))
  else do
    let registered ← (r.ready pending).foldlM register r
    registerAll registered (r.waiting pending)
termination_by pending.length
decreasing_by exact length_waiting_lt _h

/-- The registry of a list of declarations, in any order. -/
def ofDeclarations (declarations : List Declaration) : Except AdapterError Registry :=
  empty.registerAll declarations

end Registry
end TreeAdapter
