import TreeAdapter.Category
import TreeAdapter.Error
import TreeAdapter.Text.Split

/-!
# Addresses

Where in the tree an accessor looks, from its metadata and its name alone, and the key that its
answer is kept under. A property name with `/` in it addresses a property below the path.
-/

namespace TreeAdapter
set_option autoImplicit false

structure Address where
  /-- Empty for the backing resource. -/
  path : String
  /-- The name of the property; empty for references and children. -/
  key : String
  /-- The key comes from the name of the method. -/
  derived : Bool
  /-- The key of the answer in the cache. -/
  cacheKey : String
deriving DecidableEq

namespace Address

def isAbsolute (a : Address) : Bool :=
  a.path.toList.head? == some '/'

def isRelative (a : Address) : Bool :=
  a.path != "" && !a.isAbsolute

end Address

namespace Addressing
open Text

/-- The key that a method name stands for, with separators in place of placeholders. -/
def derivedKey (method : String) (settings : Settings) : String :=
  match Convention.propertyName method with
  | none => ""
  | some name => String.ofList <| name.toList.map fun c =>
      if c = settings.namespacePlaceholder then settings.namespaceSeparator else c

/-- `below` under `path`, with one separator between them. -/
def under (path below : String) : String :=
  if path = "" then below
  else String.ofList (dropTrailing (· == '/') path.toList) ++ "/" ++ below

/-- The path of a property name with directories in front of it: the root when there is nothing
before the separator, the directories themselves when they are absolute, and else the directories
under `path`. -/
def pathOf (path directories : String) : String :=
  if directories = "" then "/"
  else if directories.toList.head? = some '/' then directories
  else under path directories

/-- Path and leaf of a property `name` at `path`, split at the last separator. -/
def locate (path name : String) : String × String :=
  match cutLast '/' name.toList with
  | some (directories, leaf) => (pathOf path (String.ofList directories), String.ofList leaf)
  | none => (path, name)

/-- The part of a cache key that tells defaults apart. -/
def fallbackKey : Option DefaultValue → String
  | none => "?None"
  | some value => "?Some(" ++ value.debug ++ ")"

/-- Getters of one property as different types, or with different defaults, have different
keys. -/
def propertyCacheKey (m : Method) (path key : String) : String :=
  let declared := (m.returns.getD .string).text
  under path key ++ "#" ++ declared ++
    match m.accessor with
    | some (.property access) => if access.useFallback then fallbackKey access.fallback else ""
    | _ => ""

/-- Path and name in the metadata of a property accessor; without metadata both are empty. -/
def propertyParts (m : Method) : String × String :=
  match m.accessor with
  | some (.property access) => (trim access.path, trim access.name)
  | _ => ("", "")

def property (m : Method) (settings : Settings) : Except AdapterError Address :=
  let (path, name) := propertyParts m
  let (key, derived) :=
    if name = "" then (derivedKey m.name settings, true) else (name, false)
  if key = "" then .error (.invalidSpec (.underivableName m.name))
  else
    let (path, key) := locate path key
    if key = "" then .error (.invalidSpec (.emptyPropertyName m.name))
    else .ok ⟨path, key, derived, propertyCacheKey m path key⟩

def reference (m : Method) (access : ReferenceAccess) : Address :=
  let path := trim access.path
  ⟨path, "", false, "@reference:" ++ m.name ++ ":" ++ path⟩

def children (m : Method) (access : ChildrenAccess) : Address :=
  let path := trim access.path
  ⟨path, "", false, "@children:" ++ m.name ++ ":" ++ path⟩

end Addressing

/-- The address of a method of a category; none for a category that looks nowhere. -/
def Method.addressFor (m : Method) (settings : Settings) (category : Category) :
    Except AdapterError (Option Address) :=
  match category, m.accessor with
  | .propertyGetter, _ | .propertySetter, _ => (Addressing.property m settings).map some
  | .referenceGetter, some (.reference access) => .ok (some (Addressing.reference m access))
  | .childrenGetter, some (.children access) => .ok (some (Addressing.children m access))
  | _, _ => .ok none

/-- The address of a method. -/
def Method.address (m : Method) (settings : Settings) : Except AdapterError (Option Address) :=
  m.addressFor settings (m.category settings)

/-- The address of a method that has to have one. -/
def Method.requiredAddress (m : Method) (settings : Settings) : Except AdapterError Address := do
  match ← m.address settings with
  | some address => return address
  | none => throw (.invalidSpec (.noTarget m.name (m.category settings).text))

end TreeAdapter
