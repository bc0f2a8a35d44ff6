import TreeAdapter.Json.Reader
import TreeAdapter.Yaml.Input

/-!
# Scalars of YAML

Words without quotes, quoted texts and block texts, with the folding of line ends: one line end
is a space, more are one less.
-/

namespace TreeAdapter.Yaml
set_option autoImplicit false

/-- White space inside a scalar: blanks on a line, or the line ends since. -/
structure Gap where
  /-- A line end has been seen. -/
  broken : Bool
  blanks : List Char
  firstBreak : List Char
  laterBreaks : List Char

namespace Gap

def none : Gap := ⟨false, [], [], []⟩

/-- What a gap contributes to a text. -/
def folded (g : Gap) : List Char :=
  if g.broken then
    if g.firstBreak = ['\n'] then (if g.laterBreaks.isEmpty then [' '] else g.laterBreaks)
    else g.firstBreak ++ g.laterBreaks
  else g.blanks

end Gap

/-- The blanks and line ends from here. With `tabLimit`, a tab that stands before that column of a
further line is refused. -/
def takeGap (tabLimit : Option Nat) : Nat → Gap → Input → Option (Gap × Input)
  | 0, _, _ => none
  | fuel + 1, g, s =>
    match s.rest with
    | c :: _ =>
      if isBlankChar c then
        let badTab := g.broken && c == '\t' && match tabLimit with
          | some limit => decide (s.column < limit)
          | none => false
        if badTab then none
        else
          let blanks := if g.broken then g.blanks else g.blanks ++ [c]
          takeGap tabLimit fuel { g with blanks := blanks } s.advance
      else if isBreak c then
        let g :=
          if g.broken then { g with laterBreaks := g.laterBreaks ++ s.lineBreak }
          else { g with broken := true, blanks := [], firstBreak := s.lineBreak }
        takeGap tabLimit fuel g s.advanceLine
      else some (g, s)
    | [] => some (g, s)

/-- The characters that structure a flow collection. -/
def isFlowIndicator (c : Char) : Bool :=
  c == ',' || c == '[' || c == ']' || c == '\x7b' || c == '\x7d'

/-- The characters of a word up to a blank, an end or an indicator, from the back. -/
def takeWord (inFlow : Bool) : Nat → List Char → Input → Option (List Char × Input)
  | 0, _, _ => none
  | fuel + 1, acc, s =>
    match s.rest with
    | [] => some (acc, s)
    | c :: _ =>
      if isBlankChar c || isBreak c then some (acc, s)
      else if inFlow && c == ':' && s.nthIs 1 (fun d => isFlowIndicator d || d == '?') then none
      else if (c == ':' && s.blankOrEndAt 1) || (inFlow && isFlowIndicator c) then some (acc, s)
      else takeWord inFlow fuel (c :: acc) s.advance

/-- A scalar without quotes from its first word on: what has been read from the back, the gap
behind it, and whether the scalar ended with a line. -/
def takePlain (inFlow : Bool) (indent : Nat) :
    Nat → List Char → Gap → Input → Option (List Char × Bool × Input)
  | 0, _, _, _ => none
  | fuel + 1, acc, g, s =>
    if s.atDocumentMarker || s.nextIs (· == '#') then some (acc, g.broken, s)
    else do
      let (word, s) ← takeWord inFlow (s.rest.length + 1) [] s
      let (acc, g) :=
        if word.isEmpty then (acc, g) else (word ++ g.folded.reverse ++ acc, Gap.none)
      if s.nextIs fun c => isBlankChar c || isBreak c then
        let (g, s) ← takeGap (some indent) (s.rest.length + 1) g s
        if !inFlow && s.column < indent then some (acc, g.broken, s)
        else takePlain inFlow indent fuel acc g s
      else some (acc, g.broken, s)

/-- Hexadecimal digits as a number. -/
def hexNumber (cs : List Char) : Option Nat :=
  cs.foldlM (fun n c => (Json.hexValue c).map (n * 16 + ·)) 0

/-- A code point of `width` hexadecimal digits. -/
def codePoint (width : Nat) (s : Input) : Option (Char × Input) := do
  let digits := s.rest.take width
  if digits.length < width then none
  else
    let n ← hexNumber digits
    if (0xD800 ≤ n ∧ n ≤ 0xDFFF) ∨ 0x10FFFF < n then none
    else some (Char.ofNat n, s.advanceBy width)

/-- The character of an escape behind the backslash. -/
def takeEscape (s : Input) : Option (Char × Input) :=
  match s.rest with
  | [] => none
  | c :: _ =>
    let one (d : Char) : Option (Char × Input) := some (d, s.advance)
    match c with
    | '0' => one '\x00'
    | 'a' => one '\x07'
    | 'b' => one '\x08'
    | 't' | '\t' => one '\t'
    | 'n' => one '\n'
    | 'v' => one '\x0b'
    | 'f' => one '\x0c'
    | 'r' => one '\r'
    | 'e' => one '\x1b'
    | ' ' => one ' '
    | '"' => one '"'
    | '/' => one '/'
    | '\\' => one '\\'
    | 'N' => one '\u0085'
    | '_' => one '\u00A0'
    | 'L' => one '\u2028'
    | 'P' => one '\u2029'
    | 'x' => codePoint 2 s.advance
    | 'u' => codePoint 4 s.advance
    | 'U' => codePoint 8 s.advance
    | _ => none

/-- The characters of a quoted text up to a blank, an end or the closing quote, from the back; and
whether an escaped line end stopped them. -/
def takeQuotedWord (single : Bool) : Nat → List Char → Input → Option (List Char × Bool × Input)
  | 0, _, _ => none
  | fuel + 1, acc, s =>
    match s.rest with
    | [] => some (acc, false, s)
    | c :: rest =>
      if isBlankChar c || isBreak c then some (acc, false, s)
      else if single && c == '\'' then
        match rest with
        | '\'' :: _ => takeQuotedWord single fuel ('\'' :: acc) (s.advanceBy 2)
        | _ => some (acc, false, s)
      else if !single && c == '"' then some (acc, false, s)
      else if !single && c == '\\' then
        match rest with
        | d :: _ =>
          if isBreak d then some (acc, true, s.advance.advanceLine)
          else do
            let (e, s) ← takeEscape s.advance
            takeQuotedWord single fuel (e :: acc) s
        | [] => none
      else takeQuotedWord single fuel (c :: acc) s.advance

/-- A quoted text behind its opening quote. -/
def takeQuoted (single : Bool) : Nat → List Char → Input → Option (String × Input)
  | 0, _, _ => none
  | fuel + 1, acc, s =>
    if s.atDocumentMarker || s.atEnd then none
    else do
      let (word, escapedBreak, s) ← takeQuotedWord single (s.rest.length + 1) [] s
      let acc := word ++ acc
      if s.atEnd then none
      else if !escapedBreak && s.nextIs (· == if single then '\'' else '"') then
        some (String.ofList acc.reverse, s.advance)
      else
        let (g, s) ← takeGap none (s.rest.length + 1) { Gap.none with broken := escapedBreak } s
        takeQuoted single fuel (g.folded.reverse ++ acc) s

/-- What happens to the line ends at the end of a block text. -/
inductive Chomping where
  | strip | clip | keep
deriving DecidableEq

/-- The indicators behind `|` or `>`: chomping and indentation in either order. -/
def blockHeader (s : Input) : Option (Chomping × Option Nat × Input) :=
  let chomping (s : Input) : Option (Chomping × Input) :=
    match s.rest with
    | '+' :: _ => some (.keep, s.advance)
    | '-' :: _ => some (.strip, s.advance)
    | _ => none
  let digit (s : Input) : Option (Nat × Input) :=
    match s.rest with
    | c :: _ => if c.isDigit then some (c.toNat - '0'.toNat, s.advance) else none
    | [] => none
  let checked (c : Chomping) (width : Option Nat) (s : Input) :
      Option (Chomping × Option Nat × Input) :=
    if width = some 0 then none else some (c, width, s)
  match chomping s with
  | some (c, s) =>
    match digit s with
    | some (n, s) => checked c (some n) s
    | none => checked c none s
  | none =>
    match digit s with
    | some (n, s) =>
      match chomping s with
      | some (c, s) => checked c (some n) s
      | none => checked .clip (some n) s
    | none => checked .clip none s

/-- Indentation and empty lines before a line of a block text: the line ends, and the deepest
column seen. Without `indent` every space is indentation. -/
def blockBreaks (indent : Option Nat) :
    Nat → List Char → Nat → Input → Option (List Char × Nat × Input)
  | 0, _, _, _ => none
  | fuel + 1, breaks, deepest, s =>
    let inside (s : Input) : Bool := match indent with
      | some n => decide (s.column < n)
      | none => true
    let spaces := (s.rest.takeWhile (· == ' ')).length
    let s := s.advanceBy (match indent with
      | some n => min spaces (n - s.column)
      | none => spaces)
    let deepest := max deepest s.column
    if inside s && s.nextIs (· == '\t') then none
    else if s.nextIs isBreak then
      blockBreaks indent fuel (breaks ++ s.lineBreak) deepest s.advanceLine
    else some (breaks, deepest, s)

/-- The lines of a block text: what has been read, the line end of the last line, the empty lines
since, and whether the last line began with a blank. -/
def blockLines (literal : Bool) (indent : Nat) :
    Nat → List Char → List Char → List Char → Bool → Input →
      Option (List Char × List Char × List Char × Input)
  | 0, _, _, _, _, _ => none
  | fuel + 1, acc, leading, trailing, leadingBlank, s =>
    if s.column == indent && !s.atEnd then do
      let blank := s.nextIs isBlankChar
      let joined :=
        if !literal && leading == ['\n'] && !leadingBlank && !blank then
          (if trailing.isEmpty then [' '] else [])
        else leading
      let line := s.rest.takeWhile fun c => !isBreak c
      let s := s.advanceBy line.length
      let end_ := s.lineBreak
      let acc := acc ++ joined ++ trailing ++ line
      let (breaks, _, s) ← blockBreaks (some indent) (s.rest.length + 2) [] 0 s.advanceLine
      blockLines literal indent fuel acc end_ breaks blank s
    else some (acc, leading, trailing, s)

/-- A block text behind its `|` or `>`, in a collection indented by `parent`. -/
def takeBlock (literal : Bool) (parent : Int) (s : Input) : Option (String × Input) := do
  let (chomping, width, s) ← blockHeader s
  let s := s.skipComment
  if !s.atLineEnd then none
  else
    let s := s.advanceLine
    let given := width.map fun n => if 0 ≤ parent then parent.toNat + n else n
    let (breaks, deepest, s) ← blockBreaks given (s.rest.length + 2) [] 0 s
    let indent := given.getD (max deepest (max (parent + 1).toNat 1))
    let (acc, leading, trailing, s) ←
      blockLines literal indent (s.rest.length + 1) [] [] breaks false s
    let ending := match chomping with
      | .strip => []
      | .clip => leading
      | .keep => leading ++ trailing
    some (String.ofList (acc ++ ending), s)

end TreeAdapter.Yaml
