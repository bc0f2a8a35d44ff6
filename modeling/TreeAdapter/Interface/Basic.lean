import TreeAdapter.Interface.Method
import TreeAdapter.NameMap

/-!
# Registered interfaces

A registered interface has its parents' tables flattened into its own: own methods first, then
the inherited ones that no earlier method shadows, and the same for service bindings. Its
declaration is kept beside the flattened table.
-/

namespace TreeAdapter
set_option autoImplicit false

structure Interface where
  name : String
  /-- The interface and everything it transitively extends. -/
  exposed : NameSet
  methods : List Method
  services : List ServiceBinding
  declaration : Declaration
deriving DecidableEq

namespace Interface

/-- The method that answers a call. -/
def method? (i : Interface) (name : String) (arity : Nat) : Option Method :=
  i.methods.find? (·.answers name arity)

/-- The binding for the methods that an interface declares. -/
def binding? (i : Interface) (service : String) : Option ServiceBinding :=
  i.services.find? (·.service == service)

def implements (i : Interface) (name : String) : Bool :=
  i.exposed.contains name

/-- Inherited methods added to a table, except the ones that the table already answers. -/
def inheritMethods (table inherited : List Method) : List Method :=
  inherited.foldl
    (fun table m => if table.any (·.clashes m) then table else table ++ [m]) table

/-- Inherited bindings added to a list, except those of services that are already bound. -/
def inheritBindings (bindings inherited : List ServiceBinding) : List ServiceBinding :=
  inherited.foldl
    (fun bindings b =>
      if bindings.any (·.service == b.service) then bindings else bindings ++ [b]) bindings

/-- A declaration over its parents, which are registered. -/
def ofDeclaration (d : Declaration) (parents : List Interface) : Interface where
  name := d.name
  exposed := parents.foldl (fun s p => s.union p.exposed) (NameSet.singleton d.name)
  methods := parents.foldl (fun table p => inheritMethods table p.methods)
    (d.methods.map fun m => { m with declaredIn := d.name })
  services := parents.foldl (fun bindings p => inheritBindings bindings p.services) d.services
  declaration := d

end Interface
end TreeAdapter
