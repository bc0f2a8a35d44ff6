import TreeAdapter.Number.Reader
import TreeAdapter.Text.Blank
import TreeAdapter.Value.Basic

/-!
# Casting stored values

A stored value becomes a value of a declared type in two steps. It is fetched as the kind that
the type is stored as, which converts between kinds; then a few coercions bring what was fetched
to the type. Anything else is a coercion error that names both types. An absent value is `null`
for every type.
-/

namespace TreeAdapter
set_option autoImplicit false

namespace Value

mutual

/-- The value has the representation that a type asks for. -/
def isAssignable : Value → DeclaredType → Bool
  | null, _ => true
  | bool _, .boolean => true
  | long _, .long => true
  | double _, .double => true
  | string _, .string | string _, .name | string _, .path | string _, .reference => true
  | calendar _, .calendar => true
  | date _, .date => true
  | stream _, .stream => true
  | bytes _, .bytes => true
  | array items, .array element => allAssignable items element
  | resource _, .resource => true
  | children _, .children => true
  | adapter a, .adapter name => a.implements name
  | _, _ => false

def allAssignable : List Value → DeclaredType → Bool
  | [], _ => true
  | item :: items, element => isAssignable item element && allAssignable items element

end

end Value

namespace StoredValue

/-- The text of a scalar of a text kind, or of a binary that is UTF-8. -/
def heldText : StoredValue → Option String
  | string s | name s | path s | reference s => some s
  | binary b => String.fromUTF8? b
  | _ => none

/-- The text of any scalar. -/
def scalarText : StoredValue → Option String
  | long n => some (Number.int64Text n)
  | double x => some x.text
  | boolean b => some (Value.boolText b)
  | date c => some (Rfc3339.text .millis c)
  | multi _ => none
  | v => v.heldText

/-- The calendar value so many milliseconds after the beginning of 1970. -/
def calendarOfMillis (n : Int64) : Option Calendar :=
  (Instant.ofMillis? n.toInt).map Calendar.ofInstant

/-- The milliseconds of a calendar value, which fit 64 bits. -/
def millisOf (c : Calendar) : Int64 :=
  Int64.ofInt c.instant.millis

def fetchBoolean : StoredValue → Option Bool
  | boolean b => some b
  | long _ | double _ | date _ => none
  | v => v.heldText.map fun s => decide (s.toList.map Char.toLower = "true".toList)

def fetchDate : StoredValue → Option Calendar
  | date c => some c
  | long n => calendarOfMillis n
  | double x => calendarOfMillis x.toInt64
  | boolean _ => none
  | v => v.heldText.bind fun s => Rfc3339.read (Text.trim s)

def fetchDouble : StoredValue → Option Double
  | double x => some x
  | long n => some (Double.ofInt n.toInt)
  | date c => some (Double.ofInt (millisOf c).toInt)
  | boolean _ => none
  | v => v.heldText.bind fun s => Number.readDouble (Text.trim s)

def fetchLong : StoredValue → Option Int64
  | long n => some n
  | double x => some x.toInt64
  | date c => some (millisOf c)
  | boolean _ => none
  | v => v.heldText.bind fun s => Number.readInt64 (Text.trim s)

def fetchBinary : StoredValue → Option Bytes
  | binary b => some b
  | v => v.scalarText.map String.toUTF8

/-- The value read as a kind, when it converts. -/
def fetch? (v : StoredValue) : StoredKind → Option Value
  | .boolean => v.fetchBoolean.map .bool
  | .date => v.fetchDate.map .calendar
  | .double => v.fetchDouble.map .double
  | .long => v.fetchLong.map .long
  | .binary => v.fetchBinary.map .stream
  | .name | .path | .reference | .string => v.scalarText.map .string

end StoredValue

namespace Cast

/-- The coercions after fetching: a calendar value to its instant, its text or its milliseconds, an
instant to a calendar value, and a binary to its bytes. -/
def coerce : Value → DeclaredType → Except CoercionError Value
  | .calendar c, .date => .ok (.date c.instant)
  | .calendar c, .string => .ok (.string (Rfc3339.text .millis c))
  | .calendar c, .long => .ok (.long (StoredValue.millisOf c))
  | .date t, .calendar => .ok (.calendar (Calendar.ofInstant t))
  | .stream b, .bytes => .ok (.bytes b)
  | v, declared => .error ⟨v.typeName, declared.text⟩

def scalar (raw : StoredValue) (declared : DeclaredType) : Except CoercionError Value :=
  match raw.fetch? declared.storage with
  | none => .error ⟨raw.typeName, declared.storage.text⟩
  | some fetched =>
    if fetched.isAssignable declared then .ok fetched else coerce fetched declared

/-- Each value cast to the type of an element. -/
def all (raw : List StoredValue) (element : DeclaredType) : Except CoercionError (List Value) :=
  raw.mapM fun v => scalar v element

end Cast

/-- A stored value as a declared type. An array takes several values or a single one, and no
array of arrays exists; several values are no scalar. -/
def cast (raw : Option StoredValue) (declared : DeclaredType) : Except CoercionError Value :=
  match raw with
  | none => .ok .null
  | some raw =>
    match declared with
    | .array element =>
      if element.isArray then .error ⟨raw.typeName, declared.text⟩
      else match raw with
        | .multi values => (Cast.all values element).map .array
        | single => (Cast.scalar single element).map fun v => .array [v]
    | declared =>
      match raw with
      | .multi _ => .error ⟨raw.typeName, declared.text⟩
      | single => Cast.scalar single declared

end TreeAdapter
