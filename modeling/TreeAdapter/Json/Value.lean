import TreeAdapter.Number.Double

/-!
# JSON documents

A document as a value. Objects keep their members in the order they were written in, also when a
name is written twice; merging a document leaves each name once.
-/

namespace TreeAdapter
set_option autoImplicit false

inductive Json where
  | null
  | bool (b : Bool)
  /-- A number written without fraction and exponent that fits 64 bits, signed or unsigned. -/
  | integer (n : Int)
  /-- Any other number. -/
  | float (x : Double)
  | string (s : String)
  | array (items : List Json)
  | object (members : List (String × Json))

instance : Inhabited Json := ⟨.null⟩

namespace Json

/-- The members with `name` set to `value`: a name that is there keeps its place. -/
def setMember (members : List (String × Json)) (name : String) (value : Json) :
    List (String × Json) :=
  if members.any (·.1 == name) then
    members.map fun m => if m.1 == name then (name, value) else m
  else members ++ [(name, value)]

mutual

/-- Each name once in every object, at its first place and with its last value. -/
def merged : Json → Json
  | array items => array (mergedItems items)
  | object members => object (mergedMembers [] members)
  | scalar => scalar

def mergedItems : List Json → List Json
  | [] => []
  | item :: items => item.merged :: mergedItems items

/-- The members of `done`, each name once, with further ones. -/
def mergedMembers (done : List (String × Json)) : List (String × Json) → List (String × Json)
  | [] => done
  | (name, value) :: rest => mergedMembers (setMember done name value.merged) rest

end

/-- The value of a member. -/
def member? (members : List (String × Json)) (name : String) : Option Json :=
  (members.find? (·.1 == name)).map (·.2)

/-- The member `name` of an object. -/
def get? (name : String) : Json → Option Json
  | object members => member? members name
  | _ => none

def string? : Json → Option String
  | string s => some s
  | _ => none

end Json
end TreeAdapter
