import TreeAdapter.Convention
import TreeAdapter.Interface.Method
import TreeAdapter.Settings

/-!
# What a method does

Accessor metadata decides what a method does. Without it the name decides: identity methods and
the backing-resource method by their exact names, getters and setters by the naming convention.
Whatever is left is unrecognized and belongs to a service.
-/

namespace TreeAdapter
set_option autoImplicit false

inductive IdentityMethod where
  | toString | hashCode | equals
deriving DecidableEq

def IdentityMethod.ofName? (name : String) : Option IdentityMethod :=
  match name with
  | "toString" => some .toString
  | "hashCode" => some .hashCode
  | "equals" => some .equals
  | _ => none

inductive Category where
  | identity (method : IdentityMethod)
  | backingResource
  | propertyGetter
  | propertySetter
  | referenceGetter
  | childrenGetter
  | unrecognized
deriving DecidableEq

namespace Category

def text : Category → String
  | identity .toString => "Identity.ToString"
  | identity .hashCode => "Identity.HashCode"
  | identity .equals => "Identity.Equals"
  | backingResource => "BackingResourceAccessor"
  | propertyGetter => "PropertyGetter"
  | propertySetter => "PropertySetter"
  | referenceGetter => "ReferenceGetter"
  | childrenGetter => "ChildCollectionGetter"
  | unrecognized => "Unrecognized"

/-- The getters of properties, references and children, of which an interface needs one. -/
def isAccessor : Category → Bool
  | propertyGetter | referenceGetter | childrenGetter => true
  | _ => false

end Category

namespace Method

/-- A setter by its name, whatever its parameters. -/
def isSetter (m : Method) : Bool :=
  Convention.startsWith "set" m.name

/-- A getter by its name, without parameters and with a result. -/
def isGetter (m : Method) : Bool :=
  m.params.isEmpty && m.returns.isSome &&
    (Convention.startsWith "get" m.name || Convention.startsWith "is" m.name)

def category (m : Method) (settings : Settings) : Category :=
  match m.accessor with
  | some (.reference _) => .referenceGetter
  | some (.children _) => .childrenGetter
  | some (.property _) => if m.isSetter then .propertySetter else .propertyGetter
  | none =>
    match IdentityMethod.ofName? m.name with
    | some identity => .identity identity
    | none =>
      if m.name = settings.backingResourceMethod then .backingResource
      else if m.isGetter then .propertyGetter
      else if m.isSetter then .propertySetter
      else .unrecognized

end Method
end TreeAdapter
