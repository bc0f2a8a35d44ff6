import TreeAdapter.Document.Basic
import TreeAdapter.Number.Reader

/-!
# The type of a word

Where a place asks for no particular type, the tag of a scalar gives it. A plain scalar without one
is nothing, a truth value, an integer in decimal or with `0x`, `0o` or `0b`, a decimal fraction, or
else a text. Digits with a zero in front are a text.
-/

namespace TreeAdapter.Document
set_option autoImplicit false
open Number
open Yaml (ScalarStyle Tag)

/-- The value of a digit up to `f`. -/
def digitValue (c : Char) : Option Nat :=
  let lower := c.toLower
  if c.isDigit then some (c.toNat - '0'.toNat)
  else if 'a' ≤ lower ∧ lower ≤ 'f' then some (lower.toNat - 'a'.toNat + 10)
  else none

/-- The value of a non-empty row of digits of a base. -/
def readBase (base : Nat) (cs : List Char) : Option Nat :=
  if cs.isEmpty then none
  else cs.foldlM (fun n c => do
    let digit ← digitValue c
    if digit < base then some (n * base + digit) else none) 0

/-- An integer after its sign: with a mark of its base, or in decimal. -/
def readMagnitude : List Char → Option Nat
  | '0' :: 'x' :: cs => readBase 16 cs
  | '0' :: 'o' :: cs => readBase 8 cs
  | '0' :: 'b' :: cs => readBase 2 cs
  | cs => readBase 10 cs

/-- Behind an optional sign, a zero and at least one more digit, and digits only. -/
def isPaddedDigits (cs : List Char) : Bool :=
  let unsigned := match cs with
    | '-' :: cs => cs
    | '+' :: cs => cs
    | cs => cs
  match unsigned with
  | '0' :: c :: cs => (c :: cs).all Char.isDigit
  | _ => false

def readIntegerWord (cs : List Char) : Option Int :=
  if isPaddedDigits cs then none
  else match cs with
    | '-' :: cs => (readMagnitude cs).map fun n => -(n : Int)
    | '+' :: cs => (readMagnitude cs).map fun n => (n : Int)
    | cs => (readMagnitude cs).map fun n => (n : Int)

/-- A finite decimal, or one of the words for an infinity and for what is not a number. -/
def readFloatWord (s : String) : Option Double :=
  let unsigned := match s.toList with
    | '+' :: cs => String.ofList cs
    | _ => s
  if unsigned = ".inf" ∨ unsigned = ".Inf" ∨ unsigned = ".INF" then some (Double.infinity false)
  else if s = "-.inf" ∨ s = "-.Inf" ∨ s = "-.INF" then some (Double.infinity true)
  else if s = ".nan" ∨ s = ".NaN" ∨ s = ".NAN" then some Double.nan
  else
    match s.toList with
    | '+' :: '+' :: _ | '+' :: '-' :: _ => none
    | _ => (readDouble s).filter Double.isFinite

/-- A word that is no integer: a decimal fraction or a text. -/
def ofFractionWord (s : String) : Document :=
  if isPaddedDigits s.toList then text s
  else match readFloatWord s with
    | some x => float x
    | none => text s

/-- The integer fits 64 bits, signed or unsigned. -/
def isWordSized (n : Int) : Bool :=
  decide (int64Min ≤ n) && decide (n < pow2 64)

/-- A word with the type that it shows. An integer beyond 64 bits has none, and one beyond 128
bits is read as if it were a fraction. -/
def ofWord (s : String) : Except DecodeError Document :=
  if s = "" ∨ isNullWord s then .ok null
  else match boolWord? s with
    | some b => .ok (bool b)
    | none =>
      match readIntegerWord s.toList with
      | some n =>
        if isWordSized n then .ok (integer n)
        else if -(pow2 127 : Int) ≤ n ∧ n < pow2 128 then .error .mismatch
        else .ok (ofFractionWord s)
      | none => .ok (ofFractionWord s)

/-- A scalar with a tag that gives its type; the text has to be one of that type. -/
def ofTaggedWord (style : ScalarStyle) (s : String) : Tag → Option Document
  | .boolean => (boolWord? s).map bool
  | .integer => ((readIntegerWord s.toList).filter isWordSized).map integer
  | .float => (readFloatWord s).map float
  | .null => if isNullWord s then some null else none
  | .named => none
  | .nameless => if style = .plain then (ofWord s).toOption else some (text s)
  | .other => some (text s)

/-- A node with the type that it shows. An alternative by name has none. -/
def typed : Document → Except DecodeError Document
  | scalar .plain none s => ofWord s
  | scalar _ none s => .ok (text s)
  | scalar style (some tag) s =>
    match ofTaggedWord style s tag with
    | some d => .ok d
    | none => .error .mismatch
  | list (some .named) _ => .error .mismatch
  | d => .ok d

end TreeAdapter.Document
