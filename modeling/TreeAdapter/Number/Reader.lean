import TreeAdapter.Number.Double

/-!
# Reading doubles

The decimal grammar: an optional sign, then `inf`, `infinity` or `nan` in any case, or digits
with at most one point and at least one digit, and an optional exponent. The value is rounded
correctly.
-/

namespace TreeAdapter.Number
set_option autoImplicit false

/-- A mantissa in two rows of digits and a power of ten. -/
structure Decimal where
  whole : List Char
  fraction : List Char
  exponent : Int
deriving DecidableEq

/-- The exponent after the mantissa: nothing, or `e` and an integer with at least one digit. -/
def readExponent : List Char → Option Int
  | [] => some 0
  | c :: cs => if c = 'e' ∨ c = 'E' then readInteger cs else none

/-- Digits with at most one point and at least one digit, and an exponent. -/
def readDecimal (cs : List Char) : Option Decimal :=
  let whole := cs.takeWhile Char.isDigit
  let (fraction, rest) := match cs.dropWhile Char.isDigit with
    | '.' :: after => (after.takeWhile Char.isDigit, after.dropWhile Char.isDigit)
    | rest => ([], rest)
  if whole.isEmpty && fraction.isEmpty then none
  else (readExponent rest).map fun exponent => ⟨whole, fraction, exponent⟩

def Decimal.toDouble (negative : Bool) (d : Decimal) : Double :=
  Double.ofDecimal negative (Nat.ofDigitChars 10 (d.whole ++ d.fraction) 0)
    (d.exponent - d.fraction.length)

/-- A number without its sign. -/
def readUnsigned (negative : Bool) (cs : List Char) : Option Double :=
  match readDecimal cs with
  | some d => some (d.toDouble negative)
  | none =>
    let word := String.ofList (cs.map Char.toLower)
    if word = "inf" ∨ word = "infinity" then some (Double.infinity negative)
    else if word = "nan" then some Double.nan
    else none

def readDouble (s : String) : Option Double :=
  match s.toList with
  | '-' :: cs => readUnsigned true cs
  | '+' :: cs => readUnsigned false cs
  | cs => readUnsigned false cs

end TreeAdapter.Number
