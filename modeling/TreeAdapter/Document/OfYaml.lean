import TreeAdapter.Document.Basic
import TreeAdapter.Yaml.Lexer

/-!
# Documents written as YAML

The nesting that a row of tokens stands for. A place that holds nothing is an empty plain scalar.
An anchor gets a number, which is how many names of anchors there are so far; an alias stands for
the last node with the number that its name has when the alias is read. So the node of a name that
is marked again may be given away to the next new name. A text holds at most one document, and a
text without one is an empty plain scalar.
-/

namespace TreeAdapter
set_option autoImplicit false
open Yaml (Token Tag TagHandles)

namespace Document

/-- What is known while tokens are read. -/
structure TokenSource where
  /-- The tokens that are left. -/
  tokens : List Token
  handles : TagHandles
  /-- The names of anchors so far, each once, with their numbers. -/
  numbers : List (String × Nat)
  /-- The marked nodes with their numbers, in the order in which they begin. -/
  marked : Array (Nat × Document)

abbrev TokenReader := StateT TokenSource Option

namespace TokenReader

def peek : TokenReader (Option Token) :=
  return (← get).tokens.head?

def skip : TokenReader Unit :=
  modify fun s => { s with tokens := s.tokens.tail }

/-- Past the next token if it is `t`; whether it was. -/
def accept (t : Token) : TokenReader Bool := do
  if (← peek) = some t then
    skip
    return true
  else return false

def expect (t : Token) : TokenReader Unit := do
  if !(← accept t) then failure

/-- The next token is one of these. -/
def nextIn (ts : List Token) : TokenReader Bool := do
  match ← peek with
  | some t => return ts.contains t
  | none => return false

/-- Gives a number to an anchor where its node begins; the place of the node among the marked
ones. -/
def beginMarked (name : String) : TokenReader Nat := do
  let s ← get
  let number := s.numbers.length
  set { s with
    numbers := (name, number) :: s.numbers.filter (·.1 != name)
    marked := s.marked.push (number, null) }
  return s.marked.size

def endMarked (place : Nat) (d : Document) : TokenReader Unit :=
  modify fun s => { s with marked := s.marked.modify place fun m => (m.1, d) }

/-- The tag that comes next, when its handle stands for something. -/
def tag (t : Yaml.WrittenTag) : TokenReader Tag := do
  skip
  return Tag.ofOctets (← StateT.lift (t.resolve (← get).handles))

end TokenReader
open TokenReader

/-- What marks a node: an anchor and a tag, each at most once and in either order. -/
def properties : TokenReader (Option String × Option Tag) := do
  match ← peek with
  | some (.anchor name) =>
    skip
    match ← peek with
    | some (.tag t) => return (some name, some (← tag t))
    | _ => return (some name, none)
  | some (.tag t) =>
    let t ← tag t
    match ← peek with
    | some (.anchor name) =>
      skip
      return (some name, some t)
    | _ => return (none, some t)
  | _ => return (none, none)

/-- A place that holds nothing but perhaps a tag. -/
def empty (tag : Option Tag) : Document :=
  scalar .plain tag ""

mutual

/-- A node, with block collections only where `inBlock`, and with a list on the column of its key
where `indentless`. -/
def node : Nat → Bool → Bool → TokenReader Document
  | 0, _, _ => failure
  | fuel + 1, inBlock, indentless => do
    match ← peek with
    | some (.alias name) =>
      skip
      return reference (← StateT.lift ((← get).numbers.lookup name))
    | _ =>
      let (anchor, tag) ← properties
      match anchor with
      | none => content fuel inBlock indentless tag.isSome tag
      | some name =>
        let place ← beginMarked name
        let d ← content fuel inBlock indentless true tag
        endMarked place d
        return d

/-- A node behind its properties; a node that has some may be empty. -/
def content : Nat → Bool → Bool → Bool → Option Tag → TokenReader Document
  | 0, _, _, _, _ => failure
  | fuel + 1, inBlock, indentless, mayBeEmpty, tag => do
    match ← peek, inBlock, indentless with
    | some .blockEntry, _, true => return list tag (← indentlessItems fuel)
    | some (.scalar style s), _, _ =>
      skip
      return scalar style tag s
    | some .flowSequenceStart, _, _ =>
      skip
      return list tag (← flowItems fuel true)
    | some .flowMappingStart, _, _ =>
      skip
      return record (← flowPairs fuel true)
    | some .blockSequenceStart, true, _ =>
      skip
      return list tag (← blockItems fuel)
    | some .blockMappingStart, true, _ =>
      skip
      return record (← blockPairs fuel)
    | _, _, _ => if mayBeEmpty then return empty tag else failure

/-- A node unless one of these tokens comes next. -/
def nodeUnless : Nat → List Token → Bool → Bool → TokenReader Document
  | 0, _, _, _ => failure
  | fuel + 1, stops, inBlock, indentless => do
    if ← nextIn stops then return empty none
    else node fuel inBlock indentless

/-- The items of a list on columns of its own, with the token that ends it. -/
def blockItems : Nat → TokenReader (List Document)
  | 0 => failure
  | fuel + 1 => do
    if ← accept .blockEntry then
      let item ← nodeUnless fuel [.blockEntry, .blockEnd] true false
      return item :: (← blockItems fuel)
    else
      expect .blockEnd
      return []

/-- The items of a list on the column of its key, which ends with the last of them. -/
def indentlessItems : Nat → TokenReader (List Document)
  | 0 => failure
  | fuel + 1 => do
    if ← accept .blockEntry then
      let item ← nodeUnless fuel [.blockEntry, .key, .value, .blockEnd] true false
      return item :: (← indentlessItems fuel)
    else return []

/-- The members of a record in lines. -/
def blockPairs : Nat → TokenReader (List (Document × Document))
  | 0 => failure
  | fuel + 1 => do
    if ← accept .key then
      let stops : List Token := [.key, .value, .blockEnd]
      let key ← nodeUnless fuel stops true true
      let value ← if ← accept .value then nodeUnless fuel stops true true else pure (empty none)
      return (key, value) :: (← blockPairs fuel)
    else
      expect .blockEnd
      return []

/-- The items of a list in brackets; an item may be a record of one member. -/
def flowItems : Nat → Bool → TokenReader (List Document)
  | 0, _ => failure
  | fuel + 1, first => do
    if ← accept .flowSequenceEnd then return []
    else
      if !first then expect .flowEntry
      if ← accept .key then
        let key ←
          if ← nextIn [.value, .flowEntry, .flowSequenceEnd] then
            skip
            pure (empty none)
          else node fuel false false
        let value ←
          if ← accept .value then nodeUnless fuel [.flowEntry, .flowSequenceEnd] false false
          else pure (empty none)
        return record [(key, value)] :: (← flowItems fuel false)
      else if ← accept .flowSequenceEnd then return []
      else
        let item ← node fuel false false
        return item :: (← flowItems fuel false)

/-- The members of a record in braces. -/
def flowPairs : Nat → Bool → TokenReader (List (Document × Document))
  | 0, _ => failure
  | fuel + 1, first => do
    if ← accept .flowMappingEnd then return []
    else
      if !first then expect .flowEntry
      if ← accept .key then
        let key ← nodeUnless fuel [.value, .flowEntry, .flowMappingEnd] false false
        let value ←
          if ← accept .value then nodeUnless fuel [.flowEntry, .flowMappingEnd] false false
          else pure (empty none)
        return (key, value) :: (← flowPairs fuel false)
      else if ← accept .flowMappingEnd then return []
      else
        let key ← node fuel false false
        return (key, empty none) :: (← flowPairs fuel false)

end

/-- The prefixes that directives give to handles, after those in `given`, and the tokens behind the
directives. The version is given at most once, and each handle too. -/
def readDirectives (versioned : Bool) (given : TagHandles) :
    List Token → Option (TagHandles × List Token)
  | .version :: rest => if versioned then none else readDirectives true given rest
  | .tagHandle handle uri :: rest =>
    if (given.lookup handle).isSome then none
    else readDirectives versioned ((handle, uri) :: given) rest
  | tokens => some (given, tokens)

/-- The node that begins a document, behind its marker unless the document needs none. -/
def documentNode (fuel : Nat) : TokenReader Document := do
  match ← peek with
  | some .version | some (.tagHandle _ _) | some .documentStart =>
    let s ← get
    let (handles, tokens) ← StateT.lift (readDirectives false [] s.tokens)
    set { s with handles := handles ++ s.handles, tokens := tokens }
    expect .documentStart
    match ← peek with
    | none | some .version | some (.tagHandle _ _) | some .documentStart | some .documentEnd =>
      return empty none
    | some _ => node fuel true false
  | _ => node fuel true false

end Document

/-- The only document of a row of tokens. -/
def LinkedDocument.ofTokens? (tokens : List Yaml.Token) : Option LinkedDocument := do
  if tokens.isEmpty then return ⟨Document.empty none, []⟩
  else
    let start : Document.TokenSource := ⟨tokens, Yaml.standardHandles, [], #[]⟩
    let (d, rest) ← (Document.documentNode (4 * tokens.length + 4)).run start
    if rest.tokens.all (· = .documentEnd) then return ⟨d, rest.marked.toList.reverse⟩ else none

/-- The document of a YAML text. -/
def LinkedDocument.ofYaml (text : String) : Option LinkedDocument := do
  ofTokens? (← Yaml.tokens? text)

end TreeAdapter
