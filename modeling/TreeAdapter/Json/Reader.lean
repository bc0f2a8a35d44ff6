import TreeAdapter.Json.Number

/-!
# Reading JSON

The grammar of RFC 8259 with a bound on nesting. A member that is written twice is kept twice; a
lone surrogate escape is refused.
-/

namespace TreeAdapter.Json
set_option autoImplicit false

def isSpace (c : Char) : Bool :=
  c == ' ' || c == '\t' || c == '\n' || c == '\r'

def skipSpace (cs : List Char) : List Char :=
  cs.dropWhile isSpace

def hexValue (c : Char) : Option Nat :=
  if c.isDigit then some (c.toNat - '0'.toNat)
  else if 'a' ≤ c ∧ c ≤ 'f' then some (c.toNat - 'a'.toNat + 10)
  else if 'A' ≤ c ∧ c ≤ 'F' then some (c.toNat - 'A'.toNat + 10)
  else none

/-- Four hexadecimal digits as a number. -/
def hexQuad (a b c d : Char) : Option Nat := do
  some (((← hexValue a) * 16 + (← hexValue b)) * 256 + (← hexValue c) * 16 + (← hexValue d))

/-- The character of a one-letter escape. -/
def simpleEscape (c : Char) : Option Char :=
  match c with
  | '"' => some '"'
  | '\\' => some '\\'
  | '/' => some '/'
  | 'b' => some '\x08'
  | 'f' => some '\x0c'
  | 'n' => some '\n'
  | 'r' => some '\r'
  | 't' => some '\t'
  | _ => none

/-- The text up to the closing quote, read so far in `acc` from the back, and the rest. -/
def takeString (acc : List Char) : List Char → Option (String × List Char)
  | [] => none
  | '"' :: rest => some (String.ofList acc.reverse, rest)
  | '\\' :: 'u' :: a :: b :: c :: d :: '\\' :: 'u' :: e :: f :: g :: h :: rest =>
    match hexQuad a b c d with
    | none => none
    | some n =>
      if 0xD800 ≤ n ∧ n ≤ 0xDBFF then
        match hexQuad e f g h with
        | none => none
        | some m =>
          if 0xDC00 ≤ m ∧ m ≤ 0xDFFF then
            takeString (Char.ofNat (0x10000 + (n - 0xD800) * 0x400 + (m - 0xDC00)) :: acc) rest
          else none
      else if 0xDC00 ≤ n ∧ n ≤ 0xDFFF then none
      else takeString (Char.ofNat n :: acc) ('\\' :: 'u' :: e :: f :: g :: h :: rest)
  | '\\' :: 'u' :: a :: b :: c :: d :: rest =>
    match hexQuad a b c d with
    | none => none
    | some n =>
      if 0xD800 ≤ n ∧ n ≤ 0xDFFF then none else takeString (Char.ofNat n :: acc) rest
  | '\\' :: c :: rest =>
    match simpleEscape c with
    | some escaped => takeString (escaped :: acc) rest
    | none => none
  | c :: rest => if c.toNat < 0x20 ∨ c = '\\' then none else takeString (c :: acc) rest

/-- The rest behind a word. -/
def skipWord (word : String) (cs : List Char) : Option (List Char) :=
  if word.toList.isPrefixOf cs then some (cs.drop word.length) else none

mutual

/-- A value at the front of a text, nested at most `depth` deep less one. -/
def takeValue : Nat → Nat → List Char → Option (Json × List Char)
  | 0, _, _ => none
  | fuel + 1, depth, cs =>
    match skipSpace cs with
    | [] => none
    | '[' :: rest =>
      if depth ≤ 1 then none
      else match skipSpace rest with
        | ']' :: rest => some (.array [], rest)
        | rest => (takeItems fuel (depth - 1) [] rest).map fun p => (.array p.1, p.2)
    | '\x7b' :: rest =>
      if depth ≤ 1 then none
      else match skipSpace rest with
        | '\x7d' :: rest => some (.object [], rest)
        | rest => (takeMembers fuel (depth - 1) [] rest).map fun p => (.object p.1, p.2)
    | '"' :: rest => (takeString [] rest).map fun p => (.string p.1, p.2)
    | 't' :: rest => (skipWord "rue" rest).map fun rest => (.bool true, rest)
    | 'f' :: rest => (skipWord "alse" rest).map fun rest => (.bool false, rest)
    | 'n' :: rest => (skipWord "ull" rest).map fun rest => (.null, rest)
    | rest => takeNumber rest

/-- The items of an array from one on, after those in `acc` from the back. -/
def takeItems : Nat → Nat → List Json → List Char → Option (List Json × List Char)
  | 0, _, _, _ => none
  | fuel + 1, depth, acc, cs =>
    match takeValue fuel depth cs with
    | none => none
    | some (value, rest) =>
      match skipSpace rest with
      | ',' :: rest => takeItems fuel depth (value :: acc) rest
      | ']' :: rest => some ((value :: acc).reverse, rest)
      | _ => none

/-- The members of an object from one on, after those in `acc` from the back. -/
def takeMembers : Nat → Nat → List (String × Json) → List Char →
    Option (List (String × Json) × List Char)
  | 0, _, _, _ => none
  | fuel + 1, depth, acc, cs =>
    match skipSpace cs with
    | '"' :: rest =>
      match takeString [] rest with
      | none => none
      | some (name, rest) =>
        match skipSpace rest with
        | ':' :: rest =>
          match takeValue fuel depth rest with
          | none => none
          | some (value, rest) =>
            match skipSpace rest with
            | ',' :: rest => takeMembers fuel depth ((name, value) :: acc) rest
            | '\x7d' :: rest => some (((name, value) :: acc).reverse, rest)
            | _ => none
        | _ => none
    | _ => none

end

/-- Arrays and objects may be nested one less than this deep. -/
def depthLimit : Nat := 128

/-- The document that a text holds, nested less than `limit` deep. Each step of the reader
consumes a character or is followed by one that does. -/
def readWithin (limit : Nat) (text : String) : Option Json :=
  let cs := text.toList
  match takeValue (2 * cs.length + 2) limit cs with
  | some (value, rest) => if (skipSpace rest).isEmpty then some value else none
  | none => none

def read (text : String) : Option Json :=
  readWithin depthLimit text

end TreeAdapter.Json
