import TreeAdapter.Number.Double
import TreeAdapter.Time.Instant

/-!
# Stored values

What a property of a node holds: a scalar of one of nine kinds, or several values. Dates are
calendar values.
-/

namespace TreeAdapter
set_option autoImplicit false

abbrev Bytes := ByteArray

inductive StoredKind where
  | string | name | path | reference | long | double | boolean | date | binary
deriving DecidableEq

def StoredKind.text : StoredKind → String
  | string => "String"
  | name => "Name"
  | path => "Path"
  | reference => "Reference"
  | long => "Long"
  | double => "Double"
  | boolean => "Boolean"
  | date => "Date"
  | binary => "Binary"

inductive StoredValue where
  | string (s : String)
  | name (s : String)
  | path (s : String)
  | reference (s : String)
  | long (n : Int64)
  | double (x : Double)
  | boolean (b : Bool)
  | date (c : Calendar)
  | binary (b : Bytes)
  | multi (values : List StoredValue)

namespace StoredValue

/-- The kind of a scalar. Several values have the kind of the first, and `string` when there is
none. -/
def kind : StoredValue → StoredKind
  | string _ => .string
  | name _ => .name
  | path _ => .path
  | reference _ => .reference
  | long _ => .long
  | double _ => .double
  | boolean _ => .boolean
  | date _ => .date
  | binary _ => .binary
  | multi [] => .string
  | multi (v :: _) => v.kind

def isMultiple : StoredValue → Bool
  | multi _ => true
  | _ => false

/-- The name of the type in diagnostics. -/
def typeName (v : StoredValue) : String :=
  if v.isMultiple then v.kind.text ++ "[]" else v.kind.text

mutual

/-- Equality of payloads: numbers as numbers, dates as instants. -/
def equals : StoredValue → StoredValue → Bool
  | string a, string b => a == b
  | name a, name b => a == b
  | path a, path b => a == b
  | reference a, reference b => a == b
  | long a, long b => a == b
  | double a, double b => a.equals b
  | boolean a, boolean b => a == b
  | date a, date b => a.equals b
  | binary a, binary b => a == b
  | multi a, multi b => allEqual a b
  | _, _ => false

def allEqual : List StoredValue → List StoredValue → Bool
  | [], [] => true
  | a :: as, b :: bs => equals a b && allEqual as bs
  | _, _ => false

end

end StoredValue
end TreeAdapter
