import TreeAdapter.Json.Reader
import TreeAdapter.Json.Writer
import TreeAdapter.Time.Rfc3339
import TreeAdapter.Tree.Basic

/-!
# Trees from documents

An object is a node. A member that is an object becomes the node that the member's name leads to
from there, except that an object with `@type` is a typed scalar. Any other member becomes a
property: an array holds several values, and `null` is left out.
-/

namespace TreeAdapter
set_option autoImplicit false

namespace Tree

/-- The member that marks a typed scalar. -/
def typeMember : String := "@type"

/-- The document becomes a node. -/
def isNodeDocument : Json → Bool
  | .object members => (Json.member? members typeMember).isNone
  | _ => false

/-- A scalar written as an object with a type and a text. -/
def typedScalar (members : List (String × Json)) : Except TreeError StoredValue :=
  let kind := ((Json.member? members typeMember).bind Json.string?).getD ""
  match (Json.member? members "value").bind Json.string? with
  | none => .error (.malformed (.typedValueNeedsText kind))
  | some text =>
    match kind with
    | "date" =>
      match Rfc3339.read text with
      | some c => .ok (.date c)
      | none => .error (.malformed (.badDate text))
    | "binary" => .ok (.binary text.toUTF8)
    | "name" => .ok (.name text)
    | "path" => .ok (.path text)
    | "reference" => .ok (.reference text)
    | other => .error (.malformed (.unknownTypedValue other))

/-- A number that fits 64 bits is a long, any other a double. -/
def integerValue (n : Int) : StoredValue :=
  match Number.int64? n with
  | some long => .long long
  | none => .double (Double.ofInt n)

mutual

/-- The property that a member holds; none for `null`. -/
def propertyOf : Json → Except TreeError (Option StoredValue)
  | .null => .ok none
  | .bool b => .ok (some (.boolean b))
  | .integer n => .ok (some (integerValue n))
  | .float x => .ok (some (.double x))
  | .string s => .ok (some (.string s))
  | .array items => do return some (.multi (← propertiesOf items))
  | .object members => do return some (← typedScalar members)

/-- The values of an array in order, without `null`. -/
def propertiesOf : List Json → Except TreeError (List StoredValue)
  | [] => .ok []
  | item :: items => do
    match ← propertyOf item with
    | some (.multi _) => throw (.malformed .nestedArray)
    | some value => return value :: (← propertiesOf items)
    | none => propertiesOf items

end

mutual

/-- `t` with a document loaded as the node at `p`. -/
def loadNode (t : Tree) (p : Path) : Json → Except TreeError Tree
  | .object members => loadMembers (t.ensure p) p members
  | _ => .ok (t.ensure p)

/-- `t` with members loaded into the node at `p`, one after the other. -/
def loadMembers (t : Tree) (p : Path) : List (String × Json) → Except TreeError Tree
  | [] => .ok t
  | (name, value) :: rest => do
    if isNodeDocument value then
      match p.join name with
      | none => throw (.memberEscapesRoot p name)
      | some child => loadMembers (← loadNode t child value) p rest
    else
      match ← propertyOf value with
      | some property => loadMembers (t.mapProperties (·.insert name property) p) p rest
      | none => loadMembers t p rest

end

/-- The tree that a document describes. -/
def ofJson : Json → Except TreeError Tree
  | .object members => loadNode empty Path.root (.object members)
  | other => .error (.malformed (.rootNotObject other.text))

/-- The tree that the text of a document describes. -/
def ofText (text : String) : Except TreeError Tree :=
  match Json.read text with
  | some document => ofJson document.merged
  | none => .error .serialization

end Tree
end TreeAdapter
