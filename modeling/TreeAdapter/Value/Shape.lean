import TreeAdapter.Value.Basic

/-!
# Typed views of values

A shape is the type that a caller wants a value as: one of the kinds of values, possibly absent,
or several of it. `null` fits only what may be absent; any other mismatch is a coercion error that
names both types.
-/

namespace TreeAdapter
set_option autoImplicit false

/-- The kinds of values that a caller can ask for. -/
inductive BaseShape where
  | any | string | long | double | bool | date | calendar | bytes | stream | resource | adapter
  | children
deriving DecidableEq

inductive Shape where
  | base (b : BaseShape)
  /-- A value that may be absent. -/
  | optional (of : Shape)
  /-- An array. -/
  | several (of : Shape)
deriving DecidableEq

/-- A value seen through a shape. -/
inductive View where
  | value (v : Value)
  | absent
  | present (v : View)
  | several (items : List View)

namespace BaseShape

/-- The name of the kind in coercion errors. -/
def text : BaseShape → String
  | any => "Value"
  | string => "String"
  | long => "Long"
  | double => "Double"
  | bool => "Boolean"
  | date => "Date"
  | calendar => "Calendar"
  | bytes => "Bytes"
  | stream => "Stream"
  | resource => "Resource"
  | adapter => "Adapter"
  | children => "Iterator"

def accepts : BaseShape → Value → Bool
  | any, _ => true
  | string, .string _ => true
  | long, .long _ => true
  | double, .double _ => true
  | bool, .bool _ => true
  | date, .date _ => true
  | calendar, .calendar _ => true
  | bytes, .bytes _ => true
  | stream, .stream _ => true
  | resource, .resource _ => true
  | adapter, .adapter _ => true
  | children, .children _ => true
  | _, _ => false

end BaseShape

/-- A value as a shape. -/
def Value.as (v : Value) : Shape → Except CoercionError View
  | .base b => if b.accepts v then .ok (.value v) else .error ⟨v.typeName, b.text⟩
  | .optional shape =>
    match v with
    | .null => .ok .absent
    | v => (v.as shape).map .present
  | .several shape =>
    match v with
    | .array items => (items.mapM fun (item : Value) => item.as shape).map .several
    | v => .error ⟨v.typeName, "Array"⟩

end TreeAdapter
