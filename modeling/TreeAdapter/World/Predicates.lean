import TreeAdapter.World.Factory

/-!
# Predicates for children

The predicates that child filters are registered with. Each looks at the child in the tree as it
is when the children are listed.
-/

namespace TreeAdapter.ChildPredicate
set_option autoImplicit false

def always : ChildPredicate :=
  fun _ _ => true

def never : ChildPredicate :=
  fun _ _ => false

/-- The child has a property of this name. -/
def hasProperty (name : String) : ChildPredicate :=
  fun t child => (t.property? child name).isSome

/-- The name of the child begins so. -/
def nameBegins (start : String) : ChildPredicate :=
  fun _ child => start.toList.isPrefixOf child.name.toList

/-- A path from the child leads somewhere. -/
def leadsTo (path : String) : ChildPredicate :=
  fun t child => (t.resolve child path).isSome

def hasChildren : ChildPredicate :=
  fun t child => !(t.childPaths child).isEmpty

/-- A property of the child has this value. -/
def propertyEquals (name : String) (value : StoredValue) : ChildPredicate :=
  fun t child =>
    match t.property? child name with
    | some stored => stored.equals value
    | none => false

end TreeAdapter.ChildPredicate
