import TreeAdapter.Json.Reader
import TreeAdapter.Yaml.Input
import TreeAdapter.Yaml.Tag

/-!
# Reading tags of YAML

Handles, suffixes and tags in full. The suffix is read up to the first character that no URI
holds; escapes in it are those of UTF-8 octets, a whole character at a time. It ends before an
octet of zero.
-/

namespace TreeAdapter.Yaml
set_option autoImplicit false

/-- The characters of names: of anchors, handles and directives. -/
def isNameChar (c : Char) : Bool :=
  c.isAlphanum || c == '_' || c == '-'

/-- The characters of a suffix; in a tag in full also those that structure flow lists. -/
def isUriChar (inFull : Bool) (c : Char) : Bool :=
  isNameChar c || ";/?:@&=+$.!~*'()%".toList.contains c || (inFull && ",[]".toList.contains c)

/-- An octet written as `%` and two hexadecimal digits. -/
def takeOctet (s : Input) : Option (UInt8 × Input) :=
  match s.rest with
  | '%' :: a :: b :: _ => do
    let high ← Json.hexValue a
    let low ← Json.hexValue b
    some (UInt8.ofNat (high * 16 + low), s.advanceBy 3)
  | _ => none

/-- How many octets follow the first one of a character. -/
def trailingOctets (lead : UInt8) : Option Nat :=
  if lead < 0x80 then some 0
  else if lead < 0xC0 then none
  else if lead < 0xE0 then some 1
  else if lead < 0xF0 then some 2
  else if lead < 0xF8 then some 3
  else none

/-- So many escaped octets, each of which continues a character. -/
def takeTrailing : Nat → Input → Option (Octets × Input)
  | 0, s => some ([], s)
  | n + 1, s => do
    let (octet, s) ← takeOctet s
    if octet < 0x80 || 0xC0 ≤ octet then none
    else
      let (octets, s) ← takeTrailing n s
      some (octet :: octets, s)

/-- An escaped character as its octets. -/
def takeEscaped (s : Input) : Option (Octets × Input) := do
  let (lead, s) ← takeOctet s
  let (octets, s) ← takeTrailing (← trailingOctets lead) s
  some (lead :: octets, s)

/-- The octets of the characters of a URI from here. -/
def takeUri (inFull : Bool) : Nat → Input → Option (Octets × Input)
  | 0, _ => none
  | fuel + 1, s =>
    match s.rest with
    | c :: _ =>
      if c == '%' then do
        let (first, s) ← takeEscaped s
        let (octets, s) ← takeUri inFull fuel s
        some (first ++ octets, s)
      else if isUriChar inFull c then do
        let (octets, s) ← takeUri inFull fuel s.advance
        some (UInt8.ofNat c.toNat :: octets, s)
      else some ([], s)
    | [] => some ([], s)

/-- The octets of a URI that is not empty, before an octet of zero. -/
def uri (inFull : Bool) (s : Input) : Option (Octets × Input) := do
  let (octets, s) ← takeUri inFull (s.rest.length + 1) s
  if octets.isEmpty then none else some (octets.takeWhile (· != 0), s)

/-- `!`, then the characters of a name, then a `!` when there is one. -/
def takeHandle (s : Input) : List Char × Input :=
  let name := (s.rest.drop 1).takeWhile isNameChar
  let s := s.advanceBy (1 + name.length)
  if s.nextIs (· == '!') then ('!' :: name ++ ['!'], s.advance) else ('!' :: name, s)

/-- A handle has a `!` at both ends. What only begins with one is a suffix. -/
def isHandle (cs : List Char) : Bool :=
  decide (2 ≤ cs.length) && cs.getLast? == some '!'

/-- The tag at a `!`. Without a handle the suffix goes with `!`, except that `!` alone is a tag in
full. -/
def takeTag (s : Input) : Option (WrittenTag × Input) :=
  if s.nthIs 1 (· == '<') then do
    let (tag, s) ← uri true (s.advanceBy 2)
    if s.nextIs (· == '>') then some (⟨"", tag⟩, s.advance) else none
  else
    let (handle, s) := takeHandle s
    if isHandle handle then do
      let (suffix, s) ← uri false s
      some (⟨String.ofList handle, suffix⟩, s)
    else do
      let (more, s) ← takeUri false (s.rest.length + 1) s
      let suffix := (octets (String.ofList handle.tail) ++ more).takeWhile (· != 0)
      some (if suffix.isEmpty then ⟨"", octets "!"⟩ else ⟨"!", suffix⟩, s)

end TreeAdapter.Yaml
