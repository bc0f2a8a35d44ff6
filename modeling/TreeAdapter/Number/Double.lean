import TreeAdapter.Number.Integer

/-!
# Double-precision numbers

A 64-bit binary floating-point number is kept by its bits, and every operation is exact integer
arithmetic on them followed by one rounding to nearest, ties to even (`Double.ofRatio`).
-/

namespace TreeAdapter
set_option autoImplicit false

/-- A binary64 number by its bits: a sign, eleven exponent bits and fifty-two fraction bits. -/
structure Double where
  bits : UInt64
deriving DecidableEq

namespace Double
open Number

def isNegative (x : Double) : Bool :=
  decide (pow2 63 ≤ x.bits.toNat)

/-- The bits other than the sign. -/
def magnitude (x : Double) : Nat :=
  x.bits.toNat % pow2 63

def exponentField (x : Double) : Nat :=
  x.magnitude / pow2 52

def fraction (x : Double) : Nat :=
  x.magnitude % pow2 52

def isNaN (x : Double) : Bool :=
  x.exponentField == 2047 && x.fraction != 0

def isInfinite (x : Double) : Bool :=
  x.exponentField == 2047 && x.fraction == 0

def isFinite (x : Double) : Bool :=
  x.exponentField != 2047

def isZero (x : Double) : Bool :=
  x.magnitude == 0

/-- A finite number is its significand times two to the power of its scale, with its sign. -/
def significand (x : Double) : Nat :=
  if x.exponentField = 0 then x.fraction else x.fraction + pow2 52

def scale (x : Double) : Int :=
  if x.exponentField = 0 then -1074 else x.exponentField - 1075

/-- The absolute value of a finite number as a numerator and a denominator. -/
def ratio (x : Double) : Nat × Nat :=
  if 0 ≤ x.scale then (x.significand * pow2 x.scale.toNat, 1)
  else (x.significand, pow2 (-x.scale).toNat)

def ofMagnitude (negative : Bool) (magnitude : Nat) : Double :=
  ⟨UInt64.ofNat (magnitude + if negative then pow2 63 else 0)⟩

def infinity (negative : Bool) : Double :=
  ofMagnitude negative (2047 * pow2 52)

def zero (negative : Bool) : Double :=
  ofMagnitude negative 0

def nan : Double :=
  ofMagnitude false (2047 * pow2 52 + pow2 51)

/-- The quotient rounded to the nearest integer, a tie to the even one. -/
def divNearestEven (num den : Nat) : Nat :=
  let q := num / den
  let r := num % den
  if 2 * r < den then q
  else if den < 2 * r then q + 1
  else if q % 2 = 0 then q else q + 1

/-- `num / den` over two to the power of `exponent`, as a fraction. -/
def scaled (num den : Nat) (exponent : Int) : Nat × Nat :=
  if 0 ≤ exponent then (num, den * pow2 exponent.toNat)
  else (num * pow2 (-exponent).toNat, den)

/-- The number nearest to `num / den`, a tie to the even significand. A quotient beyond the range
becomes an infinity. -/
def ofRatio (negative : Bool) (num den : Nat) : Double :=
  if num = 0 then zero negative
  else
    let low : Int := max ((Nat.log2 num : Int) - Nat.log2 den - 53) (-1074)
    let (n, d) := scaled num den low
    let exponent := if n / d < pow2 53 then low else low + 1
    let (n, d) := scaled num den exponent
    let magnitude := (exponent + 1074).toNat * pow2 52 + divNearestEven n d
    ofMagnitude negative (min magnitude (2047 * pow2 52))

def ofInt (n : Int) : Double :=
  ofRatio (decide (n < 0)) n.natAbs 1

/-- `digits` times ten to the power of `exponent`, rounded to nearest. Far outside the range the
answer is known without the power. -/
def ofDecimal (negative : Bool) (digits : Nat) (exponent : Int) : Double :=
  if digits = 0 then zero negative
  else
    let top := (Nat.toDigits 10 digits).length + exponent
    if 310 < top then infinity negative
    else if top < -330 then zero negative
    else if 0 ≤ exponent then ofRatio negative (digits * pow10 exponent.toNat) 1
    else ofRatio negative digits (pow10 (-exponent).toNat)

/-- The product of two finite numbers. -/
def mul (x y : Double) : Double :=
  ofRatio (x.isNegative != y.isNegative) (x.ratio.1 * y.ratio.1) (x.ratio.2 * y.ratio.2)

/-- The quotient of two finite numbers, the divisor not zero. -/
def div (x y : Double) : Double :=
  ofRatio (x.isNegative != y.isNegative) (x.ratio.1 * y.ratio.2) (x.ratio.2 * y.ratio.1)

def neg (x : Double) : Double :=
  ofMagnitude (!x.isNegative) x.magnitude

/-- The number without its fraction, or the nearest 64-bit integer; zero for what is not a
number. -/
def toInt64 (x : Double) : Int64 :=
  if x.isNaN then 0
  else if x.isInfinite then clampInt64 (if x.isNegative then int64Min else int64Max)
  else
    let whole : Int := (x.ratio.1 / x.ratio.2 : Nat)
    clampInt64 (if x.isNegative then -whole else whole)

/-- Equality of numbers: the two zeros are equal, and what is not a number equals nothing. -/
def equals (x y : Double) : Bool :=
  !x.isNaN && !y.isNaN && (decide (x = y) || (x.isZero && y.isZero))

end Double
end TreeAdapter
