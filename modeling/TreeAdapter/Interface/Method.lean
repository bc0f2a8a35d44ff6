import TreeAdapter.DeclaredType
import TreeAdapter.Number.Layout
import TreeAdapter.Text.Quoted

/-!
# Methods and declarations

A declared interface is a table of methods. A method may carry accessor metadata that says where
in the tree its answer lies; the other methods of an interface may be bound to a service.
-/

namespace TreeAdapter
set_option autoImplicit false

/-- The value of a property that is absent. -/
inductive DefaultValue where
  | boolean (b : Bool)
  | long (n : Int64)
  | double (x : Double)
  | string (s : String)
  | strings (items : List String)
deriving DecidableEq

namespace DefaultValue

def toStored : DefaultValue → StoredValue
  | boolean b => .boolean b
  | long n => .long n
  | double x => .double x
  | string s => .string s
  | strings items => .multi (items.map .string)

/-- The form in diagnostics: the kind and the value, texts quoted. -/
def debug : DefaultValue → String
  | boolean b => "Boolean(" ++ (if b then "true" else "false") ++ ")"
  | long n => "Long(" ++ Number.int64Text n ++ ")"
  | double x => "Double(" ++ x.debug ++ ")"
  | string s => "String(" ++ Text.quoted s ++ ")"
  | strings items => "Strings(" ++ Text.quotedList items ++ ")"

end DefaultValue

/-- A property of the node at `path`, by its name. -/
structure PropertyAccess where
  /-- Empty for the backing resource. -/
  path : String
  /-- Blank when the name follows from the name of the method. -/
  name : String
  fallback : Option DefaultValue
  /-- Whether an absent property has the fallback as its value. -/
  useFallback : Bool
deriving DecidableEq

/-- The node at `path`. -/
structure ReferenceAccess where
  path : String
deriving DecidableEq

/-- Which children are listed. -/
inductive ChildFilter where
  | all
  /-- All but the content node. -/
  | excludeContentNode
  /-- Those that a registered predicate accepts. -/
  | named (name : String)
deriving DecidableEq

namespace ChildFilter

/-- The filter that a text names; blank text is `all`. -/
def ofText (text : String) : ChildFilter :=
  match Text.trim text with
  | "" | "all" => all
  | "exclude_content_node" => excludeContentNode
  | other => named other

def text : ChildFilter → String
  | all => "all"
  | excludeContentNode => "exclude_content_node"
  | named name => name

end ChildFilter

/-- The children of the node at `path`, each as an `element`. -/
structure ChildrenAccess where
  path : String
  element : DeclaredType
  filter : ChildFilter
deriving DecidableEq

inductive Accessor where
  | property (access : PropertyAccess)
  | reference (access : ReferenceAccess)
  | children (access : ChildrenAccess)
deriving DecidableEq

structure Method where
  name : String
  params : List DeclaredType
  returns : Option DeclaredType
  accessor : Option Accessor
  /-- The interface that declares the method; empty until it is registered. -/
  declaredIn : String
deriving DecidableEq

namespace Method

def arity (m : Method) : Nat :=
  m.params.length

/-- The method answers a call of this name with so many arguments. -/
def answers (m : Method) (name : String) (arity : Nat) : Bool :=
  m.name == name && m.arity == arity

/-- Both answer the same calls. -/
def clashes (m n : Method) : Bool :=
  m.answers n.name n.arity

end Method

/-- Binds the methods of an interface that no accessor answers to a service. -/
structure ServiceBinding where
  /-- The interface whose methods are forwarded. -/
  service : String
  pid : Option String
  filter : Option String
  implementation : Option String
deriving DecidableEq

/-- An interface as it is written. -/
structure Declaration where
  name : String
  /-- The interfaces that it extends. -/
  parents : List String
  methods : List Method
  services : List ServiceBinding
deriving DecidableEq

end TreeAdapter
