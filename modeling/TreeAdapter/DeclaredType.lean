import TreeAdapter.StoredValue
import TreeAdapter.Text.Blank
import TreeAdapter.Text.Letters

/-!
# Declared types

The type of a parameter or of a result, written as a text: a built-in name or one of its aliases,
`Object<Name>` for an object that the tree gives, and any other name, or `Adapter<Name>`, for an
interface. `[]` behind a type makes an array of it. White space around a name does not count.
-/

namespace TreeAdapter
set_option autoImplicit false

inductive DeclaredType where
  | boolean | long | double | string | name | path | reference | calendar | date | stream | bytes
  | resource | children
  | array (element : DeclaredType)
  | adapter (name : String)
  | object (name : String)
deriving DecidableEq

/-- A text that is no type name, without the white space around it. -/
structure InvalidTypeName where
  name : String
deriving DecidableEq

def InvalidTypeName.message (e : InvalidTypeName) : String :=
  "invalid type name '" ++ e.name ++ "'"

namespace DeclaredType
open Text

/-- A character that may stand in an identifier behind the first. -/
def isIdentifierChar (c : Char) : Bool :=
  isAlphanumeric c || c == '_' || c == '.'

/-- A letter or an underscore, then letters, numbers, underscores and points. -/
def isIdentifier : List Char → Bool
  | [] => false
  | c :: cs => (isAlphabetic c || c == '_') && (c :: cs).all isIdentifierChar

/-- The identifier in a text, without the white space around it. -/
def identifier (cs : List Char) : Except InvalidTypeName String :=
  let trimmed := trimChars cs
  if isIdentifier trimmed then .ok (String.ofList trimmed)
  else .error ⟨String.ofList trimmed⟩

/-- What stands between `outer<` and a closing `>`. -/
def argumentOf (outer : String) (cs : List Char) : Option (List Char) :=
  let opening := outer.toList ++ ['<']
  if opening.isPrefixOf cs then
    let body := cs.drop opening.length
    if body.getLast? = some '>' then some body.dropLast else none
  else none

/-- The built-in types by their names and aliases. -/
def builtin? (name : String) : Option DeclaredType :=
  match name with
  | "Boolean" | "boolean" | "bool" => some boolean
  | "Long" | "long" | "i64" | "Integer" | "int" => some long
  | "Double" | "double" | "f64" => some double
  | "String" | "string" => some string
  | "Name" => some .name
  | "Path" => some path
  | "Reference" => some reference
  | "Calendar" => some calendar
  | "Date" => some date
  | "Stream" | "InputStream" => some stream
  | "Bytes" | "bytes" => some bytes
  | "Resource" => some resource
  | "Iterator" | "Children" => some children
  | _ => none

/-- A type that is no array, from a text without white space around it. -/
def parseScalar (cs : List Char) : Except InvalidTypeName DeclaredType :=
  match argumentOf "Adapter" cs with
  | some inner => (identifier inner).map adapter
  | none =>
    match argumentOf "Object" cs with
    | some inner => (identifier inner).map object
    | none =>
      match builtin? (String.ofList cs) with
      | some t => .ok t
      | none => (identifier cs).map adapter

/-- What stands before a closing `[]`. -/
def elementOf (cs : List Char) : Option (List Char) :=
  match cs.reverse with
  | ']' :: '[' :: rest => some rest.reverse
  | _ => none

theorem length_lt_of_elementOf {cs rest : List Char} (h : elementOf cs = some rest) :
    rest.length < cs.length := by
  unfold elementOf at h
  split at h
  · next r hr =>
    have hl := congrArg List.length hr
    obtain rfl := Option.some.inj h
    simp only [List.length_reverse, List.length_cons] at hl ⊢
    omega
  · simp at h

theorem length_dropWhile_le {α : Type} (p : α → Bool) (cs : List α) :
    (cs.dropWhile p).length ≤ cs.length :=
  (List.dropWhile_suffix p).length_le

theorem length_trimChars_le (cs : List Char) : (trimChars cs).length ≤ cs.length := by
  simp only [trimChars, dropTrailing, List.length_reverse]
  exact Nat.le_trans (length_dropWhile_le _ _)
    (by simpa using length_dropWhile_le isBlank cs)

def parseChars (cs : List Char) : Except InvalidTypeName DeclaredType :=
  match _h : elementOf (trimChars cs) with
  | some element => (parseChars element).map array
  | none => parseScalar (trimChars cs)
termination_by cs.length
decreasing_by exact Nat.lt_of_lt_of_le (length_lt_of_elementOf _h) (length_trimChars_le cs)

/-- The type that a text names. -/
def parse (s : String) : Except InvalidTypeName DeclaredType :=
  parseChars s.toList

/-- The text of a type. -/
def text : DeclaredType → String
  | boolean => "Boolean"
  | long => "Long"
  | double => "Double"
  | string => "String"
  | .name => "Name"
  | path => "Path"
  | reference => "Reference"
  | calendar => "Calendar"
  | date => "Date"
  | stream => "Stream"
  | bytes => "Bytes"
  | resource => "Resource"
  | children => "Iterator"
  | array element => element.text ++ "[]"
  | adapter n => n
  | object n => "Object<" ++ n ++ ">"

/-- The name that objects of a tree and nested interfaces are looked up by. -/
def targetName : DeclaredType → String
  | adapter n => n
  | object n => n
  | t => t.text

def isArray : DeclaredType → Bool
  | array _ => true
  | _ => false

/-- How many `[]` stand behind the innermost type. -/
def arrayDepth : DeclaredType → Nat
  | array element => element.arrayDepth + 1
  | _ => 0

/-- The type without any `[]`. -/
def innermost : DeclaredType → DeclaredType
  | array element => element.innermost
  | t => t

/-- The kind that a stored value is read as for a type: booleans, dates and numbers as such,
streams and bytes as binaries, the kinds of text as theirs, and all else as a string. An array is
read by its element. -/
def storage : DeclaredType → StoredKind
  | boolean => .boolean
  | date | calendar => .date
  | double => .double
  | long => .long
  | stream | bytes => .binary
  | .name => .name
  | path => .path
  | reference => .reference
  | array element => element.storage
  | string | resource | children | adapter _ | object _ => .string

end DeclaredType
end TreeAdapter
