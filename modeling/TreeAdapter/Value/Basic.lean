import TreeAdapter.Error
import TreeAdapter.Identity
import TreeAdapter.Number.Layout
import TreeAdapter.Text.Quoted
import TreeAdapter.Time.Rfc3339
import TreeAdapter.Tree.Node

/-!
# Values

What a call answers. Scalars have the type that the method declares; resources, adapters, child
collections and objects are handles. A calendar keeps the offset that it was recorded in, a date
is a bare instant.
-/

namespace TreeAdapter
set_option autoImplicit false

/-- A handle to a child collection: its number in the world and the type of its elements. -/
structure Children where
  id : Nat
  element : DeclaredType
deriving DecidableEq

/-- An object that a tree gave for a node: its number in the world and the properties as they
were. -/
structure TreeObject where
  id : Nat
  properties : Properties

inductive Value where
  | null
  | bool (b : Bool)
  | long (n : Int64)
  | double (x : Double)
  | string (s : String)
  | calendar (c : Calendar)
  | date (t : Instant)
  | stream (b : Bytes)
  | bytes (b : Bytes)
  | array (items : List Value)
  | resource (r : Resource)
  | adapter (a : Adapter)
  | children (c : Children)
  | object (o : TreeObject)

instance : Inhabited Value := ⟨.null⟩

/-- What a call comes to: a value or a failure. -/
abbrev Outcome := Except AdapterError Value

namespace Value

def isNull : Value → Bool
  | null => true
  | _ => false

/-- The name of the type in diagnostics; an array is named by its first item. -/
def typeName : Value → String
  | null => "null"
  | bool _ => "Boolean"
  | long _ => "Long"
  | double _ => "Double"
  | string _ => "String"
  | calendar _ => "Calendar"
  | date _ => "Date"
  | stream _ => "Stream"
  | bytes _ => "Bytes"
  | array [] => "[]"
  | array (item :: _) => item.typeName ++ "[]"
  | resource _ => "Resource"
  | adapter a => "Adapter<" ++ a.interface.name ++ ">"
  | children _ => "Iterator"
  | object _ => "Object"

mutual

/-- Equality: numbers as numbers, calendars as instants, adapters by identity, and collections
and objects only with themselves. -/
def equals : Value → Value → Bool
  | null, null => true
  | bool a, bool b => a == b
  | long a, long b => a == b
  | double a, double b => a.equals b
  | string a, string b => a == b
  | calendar a, calendar b => a.equals b
  | date a, date b => decide (a = b)
  | stream a, stream b => a == b
  | bytes a, bytes b => a == b
  | array a, array b => allEqual a b
  | resource a, resource b => decide (a = b)
  | adapter a, adapter b => a.sameIdentity b
  | children a, children b => a.id == b.id
  | object a, object b => a.id == b.id
  | _, _ => false

def allEqual : List Value → List Value → Bool
  | [], [] => true
  | a :: as, b :: bs => equals a b && allEqual as bs
  | _, _ => false

end

mutual

/-- The same thing: for adapters the same one, for arrays item by item, and else equality. -/
def isIdentical : Value → Value → Bool
  | adapter a, adapter b => a.id == b.id
  | array a, array b => allIdentical a b
  | a, b => equals a b

def allIdentical : List Value → List Value → Bool
  | [], [] => true
  | a :: as, b :: bs => isIdentical a b && allIdentical as bs
  | _, _ => false

end

/-- How many bytes a payload has, in the form of diagnostics. -/
def bytesText (label : String) (b : Bytes) : String :=
  label ++ "(" ++ Number.integerText b.size ++ " bytes)"

def boolText (b : Bool) : String :=
  if b then "true" else "false"

mutual

/-- The text of a value as descriptions show it. -/
def text : Value → String
  | null => "null"
  | bool b => boolText b
  | long n => Number.int64Text n
  | double x => x.text
  | string s => s
  | calendar c => Rfc3339.text .millis c
  | date t => Rfc3339.zuluText .millis t
  | stream b => bytesText "Binary" b
  | bytes b => bytesText "Bytes" b
  | array items => "[ " ++ " , ".intercalate (texts items) ++ " ]"
  | resource r => r.text
  | adapter a => a.text
  | children _ => "Iterator"
  | object _ => "Object"

def texts : List Value → List String
  | [] => []
  | item :: items => text item :: texts items

end

/-- A handle in diagnostics, by the name of its fields. -/
def fieldsText (label : String) (fields : List (String × String)) : String :=
  label ++ " \x7b " ++ ", ".intercalate (fields.map fun f => f.1 ++ ": " ++ f.2) ++ " \x7d"

end Value

/-- The form of a resource in diagnostics. -/
def Resource.debug (r : Resource) : String :=
  Value.fieldsText "Resource" [("path", Text.quoted r.path.text)]

/-- The form of an adapter in diagnostics. -/
def Adapter.debug (a : Adapter) : String :=
  Value.fieldsText "Adapter"
    [("interface", Text.quoted a.interface.name), ("path", Text.quoted a.resource.path.text)]

/-- The form of a declared type in diagnostics: its constructor and its argument. -/
def DeclaredType.debug : DeclaredType → String
  | boolean => "Boolean"
  | long => "Long"
  | double => "Double"
  | string => "String"
  | .name => "Name"
  | path => "Path"
  | reference => "Reference"
  | calendar => "Calendar"
  | date => "Date"
  | stream => "Stream"
  | bytes => "Bytes"
  | resource => "Resource"
  | children => "Children"
  | array element => "Array(" ++ element.debug ++ ")"
  | adapter n => "Adapter(" ++ Text.quoted n ++ ")"
  | object n => "Object(" ++ Text.quoted n ++ ")"

/-- The form of a child collection in diagnostics; what it still holds is left out. -/
def Children.debug (c : Children) : String :=
  "Children \x7b element: " ++ c.element.debug ++ ", .. \x7d"

namespace Value

mutual

/-- The form of a value in diagnostics: its constructor and its payload, texts quoted. -/
def debug : Value → String
  | null => "Null"
  | bool b => "Bool(" ++ boolText b ++ ")"
  | long n => "Long(" ++ Number.int64Text n ++ ")"
  | double x => "Double(" ++ x.text ++ ")"
  | string s => "String(" ++ Text.quoted s ++ ")"
  | calendar c => "Calendar(" ++ Rfc3339.text .exact c ++ ")"
  | date t => "Date(" ++ Rfc3339.text .exact (Calendar.ofInstant t) ++ ")"
  | stream b => bytesText "Binary" b
  | bytes b => bytesText "Bytes" b
  | array items => "Array([" ++ ", ".intercalate (debugs items) ++ "])"
  | resource r => r.debug
  | adapter a => a.debug
  | children _ => "Children(..)"
  | object _ => "Object(..)"

def debugs : List Value → List String
  | [] => []
  | item :: items => debug item :: debugs items

end

/-- The adapters that a value holds on to. -/
def heldAdapters : Value → List Nat
  | adapter a => [a.id]
  | array items => heldInAll items
  | _ => []
where
  heldInAll : List Value → List Nat
    | [] => []
    | item :: items => heldAdapters item ++ heldInAll items

end Value
end TreeAdapter
