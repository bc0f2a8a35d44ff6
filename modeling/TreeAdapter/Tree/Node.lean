import TreeAdapter.NameMap
import TreeAdapter.Path
import TreeAdapter.StoredValue

/-!
# Nodes

A node holds properties in the order of their names and children in the order they were put in.
The operations walk down a list of segments.
-/

namespace TreeAdapter
set_option autoImplicit false

abbrev Properties := NameMap StoredValue

inductive Node where
  | mk (properties : Properties) (children : List (Segment × Node))

namespace Node

def properties : Node → Properties
  | mk ps _ => ps

def children : Node → List (Segment × Node)
  | mk _ cs => cs

def empty : Node := mk NameMap.empty []

/-- The child at a segment. -/
def child? (n : Node) (s : Segment) : Option Node :=
  (n.children.find? (·.1 = s)).map (·.2)

def childNames (n : Node) : List Segment :=
  n.children.map (·.1)

/-- The children with `f` applied to the one at `s`, or to an empty node put at the end. -/
def updateChild (s : Segment) (f : Node → Node) : List (Segment × Node) → List (Segment × Node)
  | [] => [(s, f empty)]
  | (k, n) :: rest => if k = s then (k, f n) :: rest else (k, n) :: updateChild s f rest

/-- The children with `f` applied to the one at `s`, when there is one. -/
def mapChild (s : Segment) (f : Node → Node) (children : List (Segment × Node)) :
    List (Segment × Node) :=
  children.map fun c => if c.1 = s then (c.1, f c.2) else c

/-- The node at the end of a walk. -/
def find? : List Segment → Node → Option Node
  | [], n => some n
  | s :: rest, n => (n.child? s).bind (find? rest)

/-- The missing nodes of a walk put in, each as the last child of the one above. -/
def ensure : List Segment → Node → Node
  | [], n => n
  | s :: rest, n => mk n.properties (updateChild s (ensure rest) n.children)

/-- `f` applied to the properties of the node at the end of a walk, when there is one. -/
def mapProperties (f : Properties → Properties) : List Segment → Node → Node
  | [], n => mk (f n.properties) n.children
  | s :: rest, n => mk n.properties (mapChild s (mapProperties f rest) n.children)

/-- The child at the end of a walk taken out with all below it. -/
def remove : List Segment → Node → Node
  | [], n => n
  | [s], n => mk n.properties (n.children.filter (·.1 ≠ s))
  | s :: t :: rest, n => mk n.properties (mapChild s (remove (t :: rest)) n.children)

mutual

/-- How many nodes there are from this one down. -/
def count : Node → Nat
  | mk _ cs => 1 + countAll cs

def countAll : List (Segment × Node) → Nat
  | [] => 0
  | (_, n) :: rest => count n + countAll rest

end

end Node
end TreeAdapter
