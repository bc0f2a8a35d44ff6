import TreeAdapter.Tree.Error
import TreeAdapter.Tree.Node

/-!
# Resource trees

A tree is its root node. Reading goes by path and never fails: what is absent has no properties
and no children. Writing goes by the text of a path, and a failing operation changes nothing.
-/

namespace TreeAdapter
set_option autoImplicit false

structure Tree where
  root : Node

namespace Tree

/-- The tree of the root alone. -/
def empty : Tree := ⟨Node.empty⟩

def node? (t : Tree) (p : Path) : Option Node :=
  t.root.find? p.segments

def contains (t : Tree) (p : Path) : Bool :=
  (t.node? p).isSome

/-- The path of the node that a text leads to from `p`; the empty text leads to `p` itself, which
need not be a node. -/
def resolve (t : Tree) (p : Path) (text : String) : Option Path :=
  if text = "" then some p else (p.join text).filter t.contains

/-- The children of a node in their order. -/
def childPaths (t : Tree) (p : Path) : List Path :=
  match t.node? p with
  | some n => n.childNames.map p.child
  | none => []

def property? (t : Tree) (p : Path) (name : String) : Option StoredValue :=
  (t.node? p).bind fun n => n.properties.get? name

/-- The names of the properties of a node in order. -/
def propertyNames (t : Tree) (p : Path) : List String :=
  match t.node? p with
  | some n => n.properties.keys
  | none => []

/-- The one type of object that a tree gives for a node: its properties as they are now. -/
def valueMapName : String := "ValueMap"

/-- The object of a named type that a tree gives for a node. -/
def adapt? (t : Tree) (p : Path) (target : String) : Option Properties :=
  if target = valueMapName then (t.node? p).map Node.properties else none

def nodeCount (t : Tree) : Nat :=
  t.root.count

/-- The node at `p`, put in with the missing nodes above it. -/
def ensure (t : Tree) (p : Path) : Tree :=
  ⟨t.root.ensure p.segments⟩

def mapProperties (t : Tree) (f : Properties → Properties) (p : Path) : Tree :=
  ⟨t.root.mapProperties f p.segments⟩

def parsePath (path : String) : Except TreeError Path :=
  match Path.parse path with
  | .ok p => .ok p
  | .error cause => .error (.invalidPath cause)

/-- Creates a node along with the missing ones above it. -/
def insertNode (t : Tree) (path : String) : Except TreeError Tree := do
  let p ← parsePath path
  return t.ensure p

/-- Sets a property of a node that exists. -/
def setProperty (t : Tree) (path name : String) (value : StoredValue) : Except TreeError Tree := do
  let p ← parsePath path
  if t.contains p then return t.mapProperties (·.insert name value) p
  else throw (.notFound p.text)

/-- Takes a property from a node that exists; the value that it had. -/
def removeProperty (t : Tree) (path name : String) :
    Except TreeError (Tree × Option StoredValue) := do
  let p ← parsePath path
  if t.contains p then return (t.mapProperties (·.erase name) p, t.property? p name)
  else throw (.notFound p.text)

/-- Takes a node with all below it out of the tree; whether there was one. -/
def removeNode (t : Tree) (path : String) : Except TreeError (Tree × Bool) := do
  let p ← parsePath path
  if p.isRoot then throw .cannotRemoveRoot
  else if t.contains p then return (⟨t.root.remove p.segments⟩, true)
  else return (t, false)

end Tree
end TreeAdapter
