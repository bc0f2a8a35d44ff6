import TreeAdapter.Yaml.Directive
import TreeAdapter.Yaml.Scalar

/-!
# From a YAML text to its tokens

A key shows only at the `:` behind it. So the start of each node that could be a key is kept as a
candidate, and the tokens of the key are put in front of it once the `:` is there. Columns become
tokens: a deeper column opens a block collection, and a return to a former one closes it.
-/

namespace TreeAdapter.Yaml
set_option autoImplicit false

/-- The place where a key may have begun. -/
structure KeyCandidate where
  /-- The column leaves nothing but a key. -/
  required : Bool
  /-- How many tokens stand before it. -/
  tokensBefore : Nat
  index : Nat
  line : Nat
  column : Nat

structure Lexer where
  input : Input
  tokens : Array Token
  /-- The column of the block collection around, −1 outside of all. -/
  indent : Int
  /-- The columns of the block collections further out. -/
  outer : List Int
  /-- A key may begin here. -/
  keyAllowed : Bool
  /-- The candidate of the block context or, behind it, of the flow collections, innermost first. -/
  candidate : Option KeyCandidate
  /-- The candidates of the contexts around the innermost one: as many as there are open flow
  collections. -/
  outerCandidates : List (Option KeyCandidate)

namespace Lexer

def ofInput (s : Input) : Lexer :=
  ⟨s, #[], -1, [], true, none, []⟩

def inFlow (l : Lexer) : Bool :=
  !l.outerCandidates.isEmpty

def push (l : Lexer) (t : Token) : Lexer :=
  { l with tokens := l.tokens.push t }

/-- A token that is `n` characters long. -/
def pushOver (l : Lexer) (n : Nat) (t : Token) : Lexer :=
  { l.push t with input := l.input.advanceBy n }

/-- A byte order mark may stand at the start of each line. It takes a column. -/
def skipMark (s : Input) : Input :=
  if s.column == 0 && s.nextIs (· == '\uFEFF') then s.advance else s

/-- To the next token, over blanks, comments and line ends. A tab is no indentation where a key may
begin. -/
def skipSpace : Nat → Lexer → Lexer
  | 0, l => l
  | fuel + 1, l =>
    let tabs := l.inFlow || !l.keyAllowed
    let s := (skipMark l.input).skipWhile fun c => c == ' ' || (tabs && c == '\t')
    let s := if s.nextIs (· == '#') then s.skipWhile fun c => !isBreak c else s
    if s.nextIs isBreak then
      skipSpace fuel { l with input := s.advanceLine, keyAllowed := l.keyAllowed || !l.inFlow }
    else { l with input := s }

/-- A key ends on the line that it begins on, and within 1024 octets. -/
def isStale (l : Lexer) (k : KeyCandidate) : Bool :=
  k.line < l.input.line || k.index + 1024 < l.input.index

/-- The candidate unless it has become stale, which fails for a required one. -/
def freshCandidate (l : Lexer) : Option KeyCandidate → Option (Option KeyCandidate)
  | none => some none
  | some k => if l.isStale k then (if k.required then none else some none) else some (some k)

def dropStale (l : Lexer) : Option Lexer := do
  let candidate ← l.freshCandidate l.candidate
  let outer ← l.outerCandidates.mapM l.freshCandidate
  return { l with candidate := candidate, outerCandidates := outer }

/-- Without the innermost candidate, which must not be required. -/
def dropCandidate (l : Lexer) : Option Lexer :=
  if l.candidate.any (·.required) then none else some { l with candidate := none }

/-- This place as the innermost candidate, if a key may begin here. -/
def saveCandidate (l : Lexer) : Option Lexer :=
  if l.keyAllowed then do
    let required := !l.inFlow && l.indent == (l.input.column : Int)
    let l ← l.dropCandidate
    return { l with
      candidate := some ⟨required, l.tokens.size, l.input.index, l.input.line, l.input.column⟩ }
  else some l

/-- Opens a block collection at a deeper column, with its token behind the first `place` tokens. -/
def roll (l : Lexer) (column place : Nat) (opening : Token) : Lexer :=
  if !l.inFlow && l.indent < (column : Int) then
    { l with
      indent := column
      outer := l.indent :: l.outer
      tokens := l.tokens.insertIdxIfInBounds place opening }
  else l

/-- Closes the block collections deeper than a column, of those in `outer`. -/
def unrollFrom (column : Int) : List Int → Lexer → Lexer
  | [], l => l
  | indent :: outer, l =>
    if column < l.indent then
      unrollFrom column outer { l.push .blockEnd with indent := indent, outer := outer }
    else l

def unroll (l : Lexer) (column : Int) : Lexer :=
  if l.inFlow then l else unrollFrom column l.outer l

/-- Ends what is open in block context, before a directive, a document marker or the end. -/
def close (l : Lexer) : Option Lexer := do
  let l ← (l.unroll (-1)).dropCandidate
  return { l with keyAllowed := false }

def openFlow (l : Lexer) (t : Token) : Option Lexer := do
  let l ← l.saveCandidate
  return { l.pushOver 1 t with
    keyAllowed := true, candidate := none, outerCandidates := l.candidate :: l.outerCandidates }

def closeFlow (l : Lexer) (t : Token) : Option Lexer := do
  let l ← l.dropCandidate
  let l := match l.outerCandidates with
    | c :: outer => { l with candidate := c, outerCandidates := outer }
    | [] => l
  return { l.pushOver 1 t with keyAllowed := false }

def flowEntry (l : Lexer) : Option Lexer := do
  let l ← l.dropCandidate
  return { l.pushOver 1 .flowEntry with keyAllowed := true }

/-- Opens, in block context, a collection at this column; it may begin only where a key may. -/
def rollHere (l : Lexer) (opening : Token) : Option Lexer :=
  if l.inFlow then some l
  else if l.keyAllowed then some (l.roll l.input.column l.tokens.size opening)
  else none

def blockEntry (l : Lexer) : Option Lexer := do
  let l ← l.rollHere .blockSequenceStart
  let l ← l.dropCandidate
  return { l.pushOver 1 .blockEntry with keyAllowed := true }

def explicitKey (l : Lexer) : Option Lexer := do
  let l ← l.rollHere .blockMappingStart
  let l ← l.dropCandidate
  return { l.pushOver 1 .key with keyAllowed := !l.inFlow }

/-- A `:`, behind a key that began at the candidate or without a key. -/
def value (l : Lexer) : Option Lexer :=
  match l.candidate with
  | some k =>
    let l := { l with tokens := l.tokens.insertIdxIfInBounds k.tokensBefore .key }
    let l := l.roll k.column k.tokensBefore .blockMappingStart
    some { l.pushOver 1 .value with candidate := none, keyAllowed := false }
  | none => do
    let l ← l.rollHere .blockMappingStart
    return { l.pushOver 1 .value with keyAllowed := !l.inFlow }

/-- The name of an anchor or alias behind its mark. -/
def named (l : Lexer) (token : String → Token) : Option Lexer := do
  let l ← l.saveCandidate
  let s := l.input.advance
  let name := s.rest.takeWhile isNameChar
  let s := s.advanceBy name.length
  let ended := s.blankOrEndAt 0 || s.nextIs fun c => "?:,]\x7d%@\x60".toList.contains c
  if name.isEmpty || !ended then none
  else return { l.push (token (String.ofList name)) with input := s, keyAllowed := false }

/-- A tag, which a blank, an end or, between brackets, a comma follows. -/
def tag (l : Lexer) : Option Lexer := do
  let l ← l.saveCandidate
  let (tag, s) ← takeTag l.input
  if s.blankOrEndAt 0 || (l.inFlow && s.nextIs (· == ',')) then
    return { l.push (.tag tag) with input := s, keyAllowed := false }
  else none

def quoted (l : Lexer) (single : Bool) : Option Lexer := do
  let l ← l.saveCandidate
  let (text, s) ← takeQuoted single (l.input.rest.length + 1) [] l.input.advance
  return { l.push (.scalar .quoted text) with input := s, keyAllowed := false }

def block (l : Lexer) (literal : Bool) : Option Lexer := do
  let l ← l.dropCandidate
  let (text, s) ← takeBlock literal l.indent l.input.advance
  let style := if literal then .literal else .quoted
  return { l.push (.scalar style text) with input := s, keyAllowed := true }

/-- A word without quotes; behind one that ended with its line, a key may begin. -/
def plain (l : Lexer) : Option Lexer := do
  let l ← l.saveCandidate
  let (word, broken, s) ←
    takePlain l.inFlow (l.indent + 1).toNat (l.input.rest.length + 1) [] Gap.none l.input
  return { l.push (.scalar .plain (String.ofList word.reverse)) with
    input := s, keyAllowed := broken }

def directive (l : Lexer) : Option Lexer := do
  let l ← l.close
  let (directive, s) ← takeDirective l.input
  return { l.push directive with input := s }

def marker (l : Lexer) (t : Token) : Option Lexer := do
  let l ← l.close
  return l.pushOver 3 t

/-- The character begins no word without quotes. -/
def isIndicator (c : Char) : Bool :=
  isFlowIndicator c || "-?:#&*!|>'\"%@\x60".toList.contains c

/-- The token at the next character, which is neither a blank nor a line end. -/
def scan (l : Lexer) : Option Lexer :=
  let s := l.input
  let spaced := s.blankOrEndAt 1
  match s.rest with
  | [] => none
  | c :: _ =>
    if s.column == 0 && c == '%' then l.directive
    else if s.atMarker '-' then l.marker .documentStart
    else if s.atMarker '.' then l.marker .documentEnd
    else if c == '[' then l.openFlow .flowSequenceStart
    else if c == '\x7b' then l.openFlow .flowMappingStart
    else if c == ']' then l.closeFlow .flowSequenceEnd
    else if c == '\x7d' then l.closeFlow .flowMappingEnd
    else if c == ',' then l.flowEntry
    else if c == '-' && spaced then l.blockEntry
    else if c == '?' && (l.inFlow || spaced) then l.explicitKey
    else if c == ':' && (l.inFlow || spaced) then l.value
    else if c == '*' then l.named .alias
    else if c == '&' then l.named .anchor
    else if c == '!' then l.tag
    else if c == '|' && !l.inFlow then l.block true
    else if c == '>' && !l.inFlow then l.block false
    else if c == '\'' then l.quoted true
    else if c == '"' then l.quoted false
    else if !(isBlankChar c || isIndicator c) || (c == '-' && !s.nthIs 1 isBlankChar) ||
        (!l.inFlow && (c == '?' || c == ':') && !spaced) then l.plain
    else none

/-- All tokens from here. -/
def run : Nat → Lexer → Option (List Token)
  | 0, _ => none
  | fuel + 1, l => do
    let l := l.skipSpace (l.input.rest.length + 1)
    let l ← l.dropStale
    if l.input.atEnd then return (← l.close).tokens.toList
    else run fuel (← (l.unroll l.input.column).scan)

end Lexer

/-- The tokens of a text; none if it is not well formed. -/
def tokens? (text : String) : Option (List Token) :=
  let s := Input.ofText text
  if s.rest.all isAllowed then Lexer.run (s.rest.length + 2) (Lexer.ofInput s) else none

end TreeAdapter.Yaml
