import TreeAdapter.Number.Double

/-!
# The shortest decimal of a double

The fewest digits that read back as the number, and of those the nearest ones to it. For one
digit, two, and so on, the two neighbours of the number on the grid of that many digits are
tried; the first grid with one that reads back wins, and seventeen digits always do. Of two
neighbours that are equally near, a `Tie` takes one.
-/

namespace TreeAdapter.Number
set_option autoImplicit false

/-- A decimal in scientific form: `count` digits with the point after the first, times ten to the
power of `exponent`. -/
structure Digits where
  digits : Nat
  count : Nat
  exponent : Int
deriving DecidableEq

/-- Which of two equally near decimals is taken. -/
inductive Tie where
  | upper
  /-- The one whose last digit is even. -/
  | even
deriving DecidableEq

/-- The lower one of two neighbours is taken, of which it has the digits `below`, when the number
is `part / whole` of the way from it to the upper one. -/
def Tie.takesLower (tie : Tie) (below part whole : Nat) : Bool :=
  decide (2 * part < whole) ||
    (decide (tie = .even) && decide (2 * part = whole) && decide (below % 2 = 0))

/-- `num / den` over ten to the power of `exponent`, as a fraction. -/
def overPowerOfTen (num den : Nat) (exponent : Int) : Nat × Nat :=
  if 0 ≤ exponent then (num, den * pow10 exponent.toNat)
  else (num * pow10 (-exponent).toNat, den)

/-- Ten to the power of `exponent` is at most `num / den`. -/
def powerOfTenAtMost (num den : Nat) (exponent : Int) : Bool :=
  let (n, d) := overPowerOfTen num den exponent
  decide (d ≤ n)

/-- The greatest power of ten that is at most `num / den`, from the lengths in bits and a
correction by at most two. -/
def decimalExponent (num den : Nat) : Int :=
  let guess := ((Nat.log2 num : Int) - Nat.log2 den) * 30103 / 100000
  if powerOfTenAtMost num den (guess + 1) then guess + 1
  else if powerOfTenAtMost num den guess then guess
  else if powerOfTenAtMost num den (guess - 1) then guess - 1
  else guess - 2

/-- The candidate of `count` digits for `x`, when one of the two neighbours on that grid reads
back: the nearer one. -/
def candidate (tie : Tie) (x : Double) (exponent : Int) (count : Nat) : Option Digits :=
  let unit := exponent - count + 1
  let (n, d) := overPowerOfTen x.ratio.1 x.ratio.2 unit
  let below := n / d
  let readsBack (digits : Nat) : Bool :=
    decide (Double.ofDecimal x.isNegative digits unit = x)
  let upper : Digits :=
    if below + 1 = pow10 count then ⟨pow10 (count - 1), count, exponent + 1⟩
    else ⟨below + 1, count, exponent⟩
  match readsBack below, readsBack (below + 1) with
  | true, true => if tie.takesLower below (n % d) d then some ⟨below, count, exponent⟩ else some upper
  | true, false => some ⟨below, count, exponent⟩
  | false, true => some upper
  | false, false => none

/-- The first candidate of at least `count` digits, trying `tries` grids. -/
def firstCandidate (tie : Tie) (x : Double) (exponent : Int) : Nat → Nat → Digits
  | 0, count => ⟨x.significand, count, exponent⟩
  | tries + 1, count =>
    match candidate tie x exponent count with
    | some digits => digits
    | none => firstCandidate tie x exponent tries (count + 1)

/-- The shortest decimal of a finite number other than zero. -/
def shortest (tie : Tie) (x : Double) : Digits :=
  firstCandidate tie x (decimalExponent x.ratio.1 x.ratio.2) 17 1

end TreeAdapter.Number
