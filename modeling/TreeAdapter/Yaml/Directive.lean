import TreeAdapter.Yaml.Tag.Reader
import TreeAdapter.Yaml.Token

/-!
# Directives of YAML

A directive stands before a document, on a line of its own: `%YAML` with the version, of which 1.1
and 1.2 can be read, or `%TAG` with a handle and its prefix.
-/

namespace TreeAdapter.Yaml
set_option autoImplicit false

/-- A number of at most nine digits. -/
def takeVersionNumber (s : Input) : Option (Nat × Input) :=
  let digits := s.rest.takeWhile Char.isDigit
  if digits.isEmpty || 9 < digits.length then none
  else some (Nat.ofDigitChars 10 digits 0, s.advanceBy digits.length)

/-- The version behind `%YAML`. -/
def takeVersion (s : Input) : Option (Token × Input) := do
  let (major, s) ← takeVersionNumber (s.skipWhile isBlankChar)
  if !s.nextIs (· == '.') then none
  else
    let (minor, s) ← takeVersionNumber s.advance
    if major = 1 ∧ (minor = 1 ∨ minor = 2) then some (.version, s) else none

/-- The handle and the prefix behind `%TAG`. -/
def takeTagHandle (s : Input) : Option (Token × Input) :=
  let s := s.skipWhile isBlankChar
  let (handle, behind) := takeHandle s
  if !s.nextIs (· == '!') || !(handle == ['!'] || isHandle handle) || !behind.nextIs isBlankChar then
    none
  else do
    let (tag, s) ← uri true (behind.skipWhile isBlankChar)
    if s.blankOrEndAt 0 then some (.tagHandle (String.ofList handle) tag, s) else none

/-- The directive at a `%`, up to its line end. -/
def takeDirective (s : Input) : Option (Token × Input) := do
  let s := s.advance
  let name := s.rest.takeWhile isNameChar
  let s := s.advanceBy name.length
  let (directive, s) ←
    if !s.blankOrEndAt 0 then none
    else if name = "YAML".toList then takeVersion s
    else if name = "TAG".toList then takeTagHandle s
    else none
  let s := s.skipComment
  if s.atLineEnd then some (directive, s.advanceLine) else none

end TreeAdapter.Yaml
