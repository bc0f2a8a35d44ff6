import TreeAdapter.Text.Ranges
import TreeAdapter.Text.Quoted.Table

/-!
# Quoted texts

The quoted form of a text in diagnostics: between double quotes, with quotes, backslashes and
every character that has no printed form of its own escaped.
-/

namespace TreeAdapter.Text
set_option autoImplicit false

/-- Characters written by their code point. -/
def needsCodePoint (c : Char) : Bool :=
  let n := c.toNat
  if n < 128 then n < 32 || n == 127
  else inRanges graphemeExtendRanges n || inRanges unprintableRanges n

/-- The code point of `c` in hexadecimal, in the form `\u` and braces. -/
def codePointEscape (c : Char) : List Char :=
  ['\\', 'u', '\x7b'] ++ Nat.toDigits 16 c.toNat ++ ['\x7d']

def escapeChar (c : Char) : List Char :=
  if c = '\x00' then ['\\', '0']
  else if c = '\t' then ['\\', 't']
  else if c = '\n' then ['\\', 'n']
  else if c = '\r' then ['\\', 'r']
  else if c = '"' then ['\\', '"']
  else if c = '\\' then ['\\', '\\']
  else if needsCodePoint c then codePointEscape c
  else [c]

/-- `s` between double quotes, escaped. -/
def quoted (s : String) : String :=
  String.ofList ('"' :: s.toList.flatMap escapeChar ++ ['"'])

/-- A list of quoted texts in square brackets. -/
def quotedList (items : List String) : String :=
  "[" ++ ", ".intercalate (items.map quoted) ++ "]"

end TreeAdapter.Text
