import TreeAdapter.Number.Integer

/-!
# Failures of adapters

Why an interface is refused, an adapter cannot be built, or a call has no answer.
-/

namespace TreeAdapter
set_option autoImplicit false

/-- What is wrong with an interface, a backing resource or a service binding. -/
inductive SpecError where
  | invalidInterfaceName (name : String)
  | alreadyRegistered (name : String)
  | unknownParent (name parent : String)
  | namelessMethod (interface : String)
  | referenceWithoutPath (interface method : String)
  | duplicateMethod (interface method : String) (arity : Nat)
  | foreignBinding (interface service : String)
  | unresolvable (names : List String)
  | missingBacking (path : String)
  | notRegistered (interface : String)
  | notAdaptable (interface : String)
  | unknownFilter (interface method filter : String)
  | underivableName (method : String)
  | emptyPropertyName (method : String)
  | noTarget (method category : String)
  | unsupportedFilter (filter : String)
  | emptyBinding (service : String)
  | serviceNotFound (service : String)
deriving DecidableEq

def SpecError.message : SpecError → String
  | invalidInterfaceName name => "invalid interface name '" ++ name ++ "'"
  | alreadyRegistered name => "interface '" ++ name ++ "' is already registered"
  | unknownParent name parent =>
    "interface '" ++ name ++ "' extends unknown interface '" ++ parent ++ "'"
  | namelessMethod interface => "interface '" ++ interface ++ "' declares a method without a name"
  | referenceWithoutPath interface method =>
    "reference '" ++ interface ++ "." ++ method ++ "' needs a path"
  | duplicateMethod interface method arity =>
    "interface '" ++ interface ++ "' declares '" ++ method ++ "' with " ++
      Number.integerText arity ++ " parameter(s) twice"
  | foreignBinding interface service =>
    "interface '" ++ interface ++ "' binds service '" ++ service ++ "' it does not extend"
  | unresolvable names =>
    "unresolvable extends (unknown parent or cycle): " ++ ", ".intercalate names
  | missingBacking path => "backing resource " ++ path ++ " does not exist"
  | notRegistered interface => "'" ++ interface ++ "' is not a registered interface"
  | notAdaptable interface =>
    "interface '" ++ interface ++ "' declares no property, reference or child-collection accessor"
  | unknownFilter interface method filter =>
    "'" ++ interface ++ "." ++ method ++ "' uses unregistered child filter '" ++ filter ++ "'"
  | underivableName method =>
    "method '" ++ method ++ "' has no property name and none can be derived from it"
  | emptyPropertyName method => "method '" ++ method ++ "' resolves to an empty property name"
  | noTarget method category =>
    "method '" ++ method ++ "' (" ++ category ++ ") has no resolvable target"
  | unsupportedFilter filter => "unsupported service filter '" ++ filter ++ "'"
  | emptyBinding service =>
    "service binding for '" ++ service ++ "' names no pid, filter or implementation"
  | serviceNotFound service => "no service found for '" ++ service ++ "'"

/-- Why no method answers a call. -/
inductive NoAccessor where
  | undeclared (interface method : String) (arity : Nat)
  | unbound (method declaredIn : String)
  /-- A service does not know the method. -/
  | refused (method : String)
deriving DecidableEq

def NoAccessor.message : NoAccessor → String
  | undeclared interface method arity =>
    interface ++ " has no method '" ++ method ++ "' taking " ++ Number.integerText arity ++
      " argument(s)"
  | unbound method declaredIn =>
    "'" ++ method ++ "' is not an accessor and " ++ declaredIn ++ " has no service binding"
  | refused method => method

/-- A value that does not have the type asked for, by the names of both. -/
structure CoercionError where
  source : String
  target : String
deriving DecidableEq

def CoercionError.message (e : CoercionError) : String :=
  "cannot coerce " ++ e.source ++ " to " ++ e.target

inductive AdapterError where
  | invalidSpec (cause : SpecError)
  | noSuchAccessor (cause : NoAccessor)
  | coercion (cause : CoercionError)
  | readOnly (setter : String)
  /-- A service does not do what it is asked for. -/
  | unsupported (what : String)
  | resourceNotFound (path : String)
  | equalsArity (given : Nat)
  /-- A service cannot use its arguments. -/
  | invalidArguments (what : String)
deriving DecidableEq

namespace AdapterError

/-- The short name of the failure. -/
def kind : AdapterError → String
  | invalidSpec _ => "InvalidAdapterSpec"
  | noSuchAccessor _ => "NoSuchAccessor"
  | coercion _ => "CoercionError"
  | readOnly _ | unsupported _ => "NotImplemented"
  | resourceNotFound _ => "ResourceNotFound"
  | equalsArity _ | invalidArguments _ => "InvalidArguments"

def message : AdapterError → String
  | invalidSpec cause => "Invalid adapter spec: " ++ cause.message
  | noSuchAccessor cause => "No such accessor: " ++ cause.message
  | coercion cause => cause.message
  | readOnly setter => "Not implemented: setter '" ++ setter ++ "': properties are read-only"
  | unsupported what => "Not implemented: " ++ what
  | resourceNotFound path => "Resource not found: " ++ path
  | equalsArity given =>
    "Invalid arguments: 'equals' requires exactly 1 argument, got " ++ Number.integerText given
  | invalidArguments what => "Invalid arguments: " ++ what

end AdapterError
end TreeAdapter
