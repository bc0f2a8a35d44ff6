import TreeAdapter.Json.Value
import TreeAdapter.Number.Layout

/-!
# Writing JSON

The compact form: no white space, members in their order, and no escapes but the needed ones.
-/

namespace TreeAdapter.Json
set_option autoImplicit false
open Number

def escapeChar (c : Char) : List Char :=
  match c with
  | '"' => ['\\', '"']
  | '\\' => ['\\', '\\']
  | '\x08' => ['\\', 'b']
  | '\x0c' => ['\\', 'f']
  | '\n' => ['\\', 'n']
  | '\r' => ['\\', 'r']
  | '\t' => ['\\', 't']
  | c =>
    if c.toNat < 0x20 then
      let digits := Nat.toDigits 16 c.toNat
      ['\\', 'u'] ++ List.replicate (4 - digits.length) '0' ++ digits
    else [c]

def stringText (s : String) : String :=
  String.ofList ('"' :: s.toList.flatMap escapeChar ++ ['"'])

mutual

def text : Json → String
  | .null => "null"
  | .bool b => if b then "true" else "false"
  | .integer n => integerText n
  | .float x => documentLayout.text x
  | .string s => stringText s
  | .array items => "[" ++ ",".intercalate (itemTexts items) ++ "]"
  | .object members => "\x7b" ++ ",".intercalate (memberTexts members) ++ "\x7d"

def itemTexts : List Json → List String
  | [] => []
  | item :: items => text item :: itemTexts items

def memberTexts : List (String × Json) → List String
  | [] => []
  | (name, value) :: members => (stringText name ++ ":" ++ text value) :: memberTexts members

end

end TreeAdapter.Json
