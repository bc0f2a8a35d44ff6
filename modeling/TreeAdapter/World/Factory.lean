import TreeAdapter.Category
import TreeAdapter.Interface.Registry
import TreeAdapter.Service.Script
import TreeAdapter.Tree.Basic

/-!
# Factories

What adapters are built from: the registered interfaces, the services, the settings and the
named predicates that choose children. A factory never changes.
-/

namespace TreeAdapter
set_option autoImplicit false

/-- Decides about a child by the tree and the child's path. -/
abbrev ChildPredicate := Tree → Path → Bool

/-- The predicates that filters can name. -/
abbrev ChildPredicates := NameMap ChildPredicate

structure Factory where
  registry : Registry
  services : Services
  settings : Settings
  predicates : ChildPredicates

instance : Inhabited Factory :=
  ⟨⟨Registry.empty, ServiceDirectory.empty, Settings.standard, NameMap.empty⟩⟩

/-- Whether a child is listed. An unregistered name lists nothing. -/
def ChildFilter.accepts (filter : ChildFilter) (factory : Factory) (t : Tree) (child : Path) :
    Bool :=
  match filter with
  | .all => true
  | .excludeContentNode => child.name != factory.settings.contentNode
  | .named name =>
    match factory.predicates.get? name with
    | some predicate => predicate t child
    | none => false

/-- Some method of the interface is an accessor. -/
def Interface.isAdaptable (i : Interface) (settings : Settings) : Bool :=
  i.methods.any fun m => (m.category settings).isAccessor

namespace Factory

/-- The filter that a method names and nobody registered. -/
def unknownFilter? (f : Factory) (m : Method) : Option String :=
  match m.accessor with
  | some (.children access) =>
    match access.filter with
    | .named name => if f.predicates.contains name then none else some name
    | _ => none
  | _ => none

/-- An interface that adapters can be built for. -/
def interface (f : Factory) (name : String) : Except AdapterError Interface :=
  match f.registry.get? name with
  | none => .error (.invalidSpec (.notRegistered name))
  | some i =>
    if !i.isAdaptable f.settings then .error (.invalidSpec (.notAdaptable name))
    else
      match i.methods.findSome? fun m => (f.unknownFilter? m).map fun filter => (m.name, filter) with
      | some (method, filter) => .error (.invalidSpec (.unknownFilter name method filter))
      | none => .ok i

end Factory

/-- The form of a collection of predicates in diagnostics. -/
def ChildPredicates.debug (predicates : ChildPredicates) : String :=
  "ChildFilters \x7b names: " ++ Text.quotedList predicates.keys ++ " \x7d"

end TreeAdapter
