/-!
# The text of a YAML stream while it is read

The characters that are left, with the place of the next one: its line, its column, and how many
octets stand before it.
-/

namespace TreeAdapter.Yaml
set_option autoImplicit false

structure Input where
  rest : List Char
  /-- How many octets of UTF-8 have been read. -/
  index : Nat
  line : Nat
  column : Nat

/-- The characters that end a line. -/
def isBreak (c : Char) : Bool :=
  c == '\r' || c == '\n' || c == '\u0085' || c == '\u2028' || c == '\u2029'

def isBlankChar (c : Char) : Bool :=
  c == ' ' || c == '\t'

/-- A character that a stream may hold. -/
def isAllowed (c : Char) : Bool :=
  let n := c.toNat
  n == 0x09 || n == 0x0A || n == 0x0D || (0x20 ≤ n && n ≤ 0x7E) || n == 0x85 ||
    (0xA0 ≤ n && n ≤ 0xD7FF) || (0xE000 ≤ n && n ≤ 0xFFFD) || 0x10000 ≤ n

namespace Input

def ofText (text : String) : Input :=
  ⟨text.toList, 0, 0, 0⟩

/-- The next character satisfies `p`. -/
def nextIs (s : Input) (p : Char → Bool) : Bool :=
  match s.rest with
  | c :: _ => p c
  | [] => false

/-- The `n`th character from here satisfies `p`. -/
def nthIs (s : Input) (n : Nat) (p : Char → Bool) : Bool :=
  match s.rest[n]? with
  | some c => p c
  | none => false

def atEnd (s : Input) : Bool :=
  s.rest.isEmpty

/-- The `n`th character from here is a blank or ends the line or the text. -/
def blankOrEndAt (s : Input) (n : Nat) : Bool :=
  match s.rest[n]? with
  | some c => isBlankChar c || isBreak c
  | none => true

/-- The next character ends the line or the text. -/
def atLineEnd (s : Input) : Bool :=
  s.atEnd || s.nextIs isBreak

/-- How many octets the characters take. -/
def octetCount (cs : List Char) : Nat :=
  cs.foldl (fun n c => n + c.utf8Size) 0

/-- Past `n` characters, none of which ends a line. -/
def advanceBy (n : Nat) (s : Input) : Input :=
  ⟨s.rest.drop n, s.index + octetCount (s.rest.take n), s.line, s.column + n⟩

/-- Past one character that does not end a line. -/
def advance (s : Input) : Input :=
  s.advanceBy 1

/-- Past a line end, `\r\n` being one. -/
def advanceLine (s : Input) : Input :=
  match s.rest with
  | '\r' :: '\n' :: rest => ⟨rest, s.index + 2, s.line + 1, 0⟩
  | c :: rest => ⟨rest, s.index + c.utf8Size, s.line + 1, 0⟩
  | [] => s

/-- What a line end contributes to a text. -/
def lineBreak (s : Input) : List Char :=
  match s.rest with
  | c :: _ => if c == '\u2028' || c == '\u2029' then [c] else ['\n']
  | [] => []

/-- Past the characters that satisfy `p`, none of which may end a line. -/
def skipWhile (p : Char → Bool) (s : Input) : Input :=
  s.advanceBy (s.rest.takeWhile p).length

/-- Past blanks, and a comment behind them. -/
def skipComment (s : Input) : Input :=
  let s := s.skipWhile isBlankChar
  if s.nextIs (· == '#') then s.skipWhile fun c => !isBreak c else s

/-- At the start of a line, a marker of three characters and a blank or an end behind it. -/
def atMarker (s : Input) (c : Char) : Bool :=
  s.column == 0 && s.rest.take 3 == [c, c, c] && s.blankOrEndAt 3

def atDocumentMarker (s : Input) : Bool :=
  s.atMarker '-' || s.atMarker '.'

end Input
end TreeAdapter.Yaml
