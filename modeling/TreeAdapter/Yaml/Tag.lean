/-!
# Tags of YAML

A tag is written as a handle and a suffix, and the handle stands for a prefix: `!` and `!!` for
standard ones, others for what a directive gives. A tag is a row of octets, since an escape in it
stands for any octet.
-/

namespace TreeAdapter.Yaml
set_option autoImplicit false

abbrev Octets := List UInt8

def octets (s : String) : Octets :=
  s.toUTF8.toList

/-- A tag as it is written. With an empty handle the suffix is all of the tag. -/
structure WrittenTag where
  handle : String
  suffix : Octets
deriving DecidableEq

/-- The prefixes that handles stand for. -/
abbrev TagHandles := List (String × Octets)

/-- The handles that need no directive; a directive may give them another prefix. -/
def standardHandles : TagHandles :=
  [("!", octets "!"), ("!!", octets "tag:yaml.org,2002:")]

/-- The whole tag, when its handle stands for something. -/
def WrittenTag.resolve (t : WrittenTag) (handles : TagHandles) : Option Octets :=
  if t.handle = "" then some t.suffix else (handles.lookup t.handle).map (· ++ t.suffix)

/-- What a tag says about its node. -/
inductive Tag where
  | boolean
  | integer
  | float
  | null
  /-- A tag that begins with `!`: the node is one of several alternatives, by name. -/
  | named
  /-- A tag that begins with `!`, where no text follows; it says nothing. -/
  | nameless
  /-- Any other tag: a scalar is a text. -/
  | other
deriving DecidableEq

namespace Tag

/-- The octets are those of a text. -/
def isText (octets : Octets) : Bool :=
  (String.fromUTF8? ⟨octets.toArray⟩).isSome

def ofOctets (tag : Octets) : Tag :=
  if tag = octets "tag:yaml.org,2002:bool" then boolean
  else if tag = octets "tag:yaml.org,2002:int" then integer
  else if tag = octets "tag:yaml.org,2002:float" then float
  else if tag = octets "tag:yaml.org,2002:null" then null
  else if tag.head? = some 0x21 then (if isText tag.tail then named else nameless)
  else other

end Tag
end TreeAdapter.Yaml
