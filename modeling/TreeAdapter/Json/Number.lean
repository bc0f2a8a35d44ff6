import TreeAdapter.Json.Value

/-!
# Numbers in JSON

A number without fraction and exponent is an integer while it fits 64 bits. Any other number is
a double: as many of its digits as fit 64 bits, then one multiplication or division by a power of
ten. That is not always the nearest double, and a result beyond the range is refused.
-/

namespace TreeAdapter.Json
set_option autoImplicit false
open Number

/-- The parts of a number as it is written. -/
structure NumberText where
  negative : Bool
  whole : List Char
  fraction : Option (List Char)
  exponent : Option (Bool × List Char)

/-- The greatest significand. -/
def significandMax : Nat := pow2 64 - 1

/-- Adds digits to a significand while the result fits; the digits that are left over. -/
def addDigits (significand : Nat) : List Char → Nat × List Char
  | [] => (significand, [])
  | c :: cs =>
    let next := significand * 10 + (c.toNat - '0'.toNat)
    if next ≤ significandMax then addDigits next cs else (significand, c :: cs)

/-- Times a power of ten, in steps of at most `1e308`; nothing when the result is out of
range. -/
def timesPowerOfTen : Nat → Double → Int → Option Double
  | 0, x, _ => some x
  | steps + 1, x, exponent =>
    if exponent.natAbs ≤ 308 then
      let power := Double.ofDecimal false 1 exponent.natAbs
      if 0 ≤ exponent then
        let product := x.mul power
        if product.isInfinite then none else some product
      else some (x.div power)
    else if x.isZero then some x
    else if 0 ≤ exponent then none
    else timesPowerOfTen steps (x.div (Double.ofDecimal false 1 308)) (exponent + 308)

/-- A significand times a power of ten. Four steps of `1e308` bring every significand to zero. -/
def floatOfParts (negative : Bool) (significand : Nat) (exponent : Int) : Option Json :=
  (timesPowerOfTen 5 (Double.ofInt significand) exponent).map fun x =>
    .float (if negative then x.neg else x)

def int32Max : Int := (pow2 31 : Int) - 1

def clampInt32 (n : Int) : Int :=
  max (-(pow2 31 : Int)) (min int32Max n)

/-- A number with a written exponent. An exponent that does not fit 32 bits gives zero, or is
refused when it is positive and the significand is not zero. -/
def floatOfExponent (negative : Bool) (significand : Nat) (start : Int) (negativeExponent : Bool)
    (digits : List Char) : Option Json :=
  let exponent := Nat.ofDigitChars 10 digits 0
  if int32Max < exponent then
    if significand ≠ 0 ∧ !negativeExponent then none else some (.float (Double.zero negative))
  else
    floatOfParts negative significand
      (clampInt32 (if negativeExponent then start - exponent else start + exponent))

/-- An integer without fraction and exponent. Minus zero is a double. -/
def integerOfSignificand (negative : Bool) (significand : Nat) : Json :=
  if !negative then .integer significand
  else if significand = 0 ∨ pow2 63 < significand then .float (Double.ofInt significand).neg
  else .integer (-significand)

def NumberText.toJson (t : NumberText) : Option Json :=
  let (significand, dropped) := addDigits 0 t.whole
  let (significand, shift) := match t.fraction with
    | none => (significand, (dropped.length : Int))
    | some digits =>
      let (significand, rest) := addDigits significand digits
      (significand, (dropped.length : Int) - ((digits.length - rest.length : Nat) : Int))
  match t.exponent with
  | some (negativeExponent, digits) =>
    floatOfExponent t.negative significand shift negativeExponent digits
  | none =>
    if t.fraction.isNone && dropped.isEmpty then
      some (integerOfSignificand t.negative significand)
    else floatOfParts t.negative significand shift

/-- A row of digits at the front, and the rest. -/
def takeDigits (cs : List Char) : List Char × List Char :=
  (cs.takeWhile Char.isDigit, cs.dropWhile Char.isDigit)

/-- A fraction behind a point: at least one digit. -/
def takeFraction : List Char → Option (Option (List Char) × List Char)
  | '.' :: cs =>
    let (digits, rest) := takeDigits cs
    if digits.isEmpty then none else some (some digits, rest)
  | cs => some (none, cs)

/-- An exponent behind `e`: an optional sign and at least one digit. -/
def takeExponent : List Char → Option (Option (Bool × List Char) × List Char)
  | [] => some (none, [])
  | c :: cs =>
    if c = 'e' ∨ c = 'E' then
      let (negative, cs) := match cs with
        | '-' :: cs => (true, cs)
        | '+' :: cs => (false, cs)
        | cs => (false, cs)
      let (digits, rest) := takeDigits cs
      if digits.isEmpty then none else some (some (negative, digits), rest)
    else some (none, c :: cs)

/-- The digits before the point: at least one, and no zero in front of another. -/
def takeWhole (cs : List Char) : Option (List Char × List Char) :=
  match takeDigits cs with
  | ([], _) => none
  | ('0' :: _ :: _, _) => none
  | parts => some parts

/-- A number at the front of a text, and the rest. -/
def takeNumber (cs : List Char) : Option (Json × List Char) := do
  let (negative, cs) := match cs with
    | '-' :: cs => (true, cs)
    | cs => (false, cs)
  let (whole, cs) ← takeWhole cs
  let (fraction, cs) ← takeFraction cs
  let (exponent, cs) ← takeExponent cs
  let value ← NumberText.toJson ⟨negative, whole, fraction, exponent⟩
  some (value, cs)

end TreeAdapter.Json
