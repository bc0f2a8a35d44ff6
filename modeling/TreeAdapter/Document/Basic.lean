import TreeAdapter.DeclaredType
import TreeAdapter.Json.Value
import TreeAdapter.Yaml.Token

/-!
# Documents to decode

Declarations and settings are written as JSON or as YAML. Both give a `Document`, in which a
scalar of YAML has no type yet: it is read as what its place asks for. An empty plain scalar is
also a record or list without contents. In JSON a record may be given as the list of its fields in
order. A reference stands for a marked node, and a document allows for so many of them to be
followed.
-/

namespace TreeAdapter
set_option autoImplicit false
open Yaml (ScalarStyle Tag)

inductive Document where
  | null
  | bool (b : Bool)
  | integer (n : Int)
  | float (x : Double)
  | text (s : String)
  | scalar (style : ScalarStyle) (tag : Option Tag) (s : String)
  | list (tag : Option Tag) (items : List Document)
  /-- A list that may also give the fields of a record in order. -/
  | row (items : List Document)
  | record (members : List (Document × Document))
  /-- The node that is marked with a number. -/
  | reference (number : Nat)

/-- Why a document does not decode. -/
inductive DecodeError where
  /-- It does not have the form that is asked for. -/
  | mismatch
  | invalidTypeName (cause : InvalidTypeName)
  | severalAccessors (method : String)
deriving DecidableEq

namespace DecodeError

/-- The wording of a failure that has one of its own. -/
def message? : DecodeError → Option String
  | mismatch => none
  | invalidTypeName cause => some cause.message
  | severalAccessors method =>
    some ("method '" ++ method ++ "' declares more than one of property, reference, children")

end DecodeError

namespace Document

mutual

def ofJson : Json → Document
  | .null => null
  | .bool b => bool b
  | .integer n => integer n
  | .float x => float x
  | .string s => text s
  | .array items => row (ofJsonItems items)
  | .object members => record (ofJsonMembers members)

def ofJsonItems : List Json → List Document
  | [] => []
  | item :: items => ofJson item :: ofJsonItems items

def ofJsonMembers : List (String × Json) → List (Document × Document)
  | [] => []
  | (name, value) :: members => (text name, ofJson value) :: ofJsonMembers members

end

mutual

/-- How many parts there are: one for a scalar or reference, and the two ends of any other node. -/
def size : Document → Nat
  | list _ items => 2 + sizeOfItems items
  | row items => 2 + sizeOfItems items
  | record members => 2 + sizeOfMembers members
  | _ => 1

def sizeOfItems : List Document → Nat
  | [] => 0
  | item :: items => size item + sizeOfItems items

def sizeOfMembers : List (Document × Document) → Nat
  | [] => 0
  | (name, value) :: members => size name + size value + sizeOfMembers members

end

end Document

/-- A document with the nodes that its references stand for, by their numbers. -/
structure LinkedDocument where
  body : Document
  targets : List (Nat × Document)

def LinkedDocument.ofJson (j : Json) : LinkedDocument :=
  ⟨Document.ofJson j, []⟩

/-- The nodes that references stand for, and how many references may still be followed. -/
structure References where
  targets : List (Nat × Document)
  left : Nat

abbrev Decoding := StateT References (Except DecodeError)

/-- Decodes the body. A hundred references may be followed for each of its parts. -/
def LinkedDocument.decode {α : Type} (d : LinkedDocument) (decode : Document → Decoding α) :
    Except DecodeError α :=
  (decode d.body).run' ⟨d.targets, 100 * d.body.size⟩

namespace Document

/-- The node itself, or the one that a reference stands for. -/
def follow : Document → Decoding Document
  | reference number => do
    let references ← get
    match references.left, references.targets.lookup number with
    | left + 1, some target =>
      set { references with left := left }
      return target
    | _, _ => throw .mismatch
  | d => return d

/-- The words for nothing. -/
def isNullWord (s : String) : Bool :=
  s == "~" || s == "null" || s == "Null" || s == "NULL"

/-- The words for truth values. -/
def boolWord? (s : String) : Option Bool :=
  if s = "true" ∨ s = "True" ∨ s = "TRUE" then some true
  else if s = "false" ∨ s = "False" ∨ s = "FALSE" then some false
  else none

/-- The text of a scalar that was written as one. -/
def string? : Document → Option String
  | text s => some s
  | scalar _ _ s => some s
  | _ => none

def string (d : Document) : Decoding String := do
  match (← d.follow).string? with
  | some s => return s
  | none => throw .mismatch

/-- A text of one character. -/
def char (d : Document) : Decoding Char := do
  match (← d.string).toList with
  | [c] => return c
  | _ => throw .mismatch

/-- A truth value: a plain scalar with any tag, or a literal one with the tag of truth values. -/
def bool? : Document → Option Bool
  | bool b => some b
  | scalar .plain _ s => boolWord? s
  | scalar .literal (some .boolean) s => boolWord? s
  | _ => none

def boolean (d : Document) : Decoding Bool := do
  match (← d.follow).bool? with
  | some b => return b
  | none => throw .mismatch

/-- Whether a place is left open. A plain scalar with a tag fills its place; with the tag for
nothing it has to be a word for nothing. -/
def isAbsent : Document → Except DecodeError Bool
  | null => .ok true
  | scalar .plain none s => .ok (s == "" || isNullWord s)
  | scalar .plain (some .null) s => if isNullWord s then .ok true else .error .mismatch
  | _ => .ok false

/-- Nothing, or what `decode` makes of the document. -/
def optional {α : Type} (decode : Document → Decoding α) (d : Document) : Decoding (Option α) := do
  let d ← d.follow
  if ← d.isAbsent then return none
  else return some (← decode d)

/-- A list of what `decode` makes of the items. -/
def listOf {α : Type} (decode : Document → Decoding α) (d : Document) : Decoding (List α) := do
  match ← d.follow with
  | list _ items | row items => items.mapM decode
  | scalar .plain _ "" => return []
  | _ => throw .mismatch

def declaredType (d : Document) : Decoding DeclaredType := do
  match DeclaredType.parse (← d.string) with
  | .ok t => return t
  | .error cause => throw (.invalidTypeName cause)

/-- A record as the fold of a step over its fields in the order they are written in. -/
structure RecordShape (σ : Type) where
  /-- The fields in the order that a list gives them. -/
  fields : List String
  /-- Whether a member that is no field is refused. -/
  strict : Bool
  step : σ → String → Document → Decoding σ

namespace RecordShape
variable {σ : Type}

/-- The members after those of the fields in `seen`; a field that is written twice is refused. -/
def foldMembers (shape : RecordShape σ) (seen : List String) (state : σ) :
    List (Document × Document) → Decoding σ
  | [] => return state
  | (key, value) :: rest => do
    let name ← key.string
    if shape.fields.contains name then
      if seen.contains name then throw .mismatch
      else foldMembers shape (name :: seen) (← shape.step state name value) rest
    else if shape.strict then throw .mismatch
    else foldMembers shape seen state rest

/-- The items for the fields in order; more items than fields are refused. -/
def foldItems (shape : RecordShape σ) (state : σ) :
    List String → List Document → Decoding σ
  | _, [] => return state
  | [], _ :: _ => throw .mismatch
  | name :: names, item :: items => do
    foldItems shape (← shape.step state name item) names items

def decode (shape : RecordShape σ) (start : σ) (d : Document) : Decoding σ := do
  match ← d.follow with
  | record members => shape.foldMembers [] start members
  | row items => shape.foldItems start shape.fields items
  | scalar .plain _ "" => return start
  | _ => throw .mismatch

end RecordShape

end Document
end TreeAdapter
