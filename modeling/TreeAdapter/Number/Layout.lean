import TreeAdapter.Number.Shortest

/-!
# Texts of doubles

Which digits a text shows is `Number.shortest`; how they are laid out is a `FloatLayout`. There
are three: plain texts never use an exponent, diagnostics and documents do for very large and
very small numbers and show a whole number with `.0`.
-/

namespace TreeAdapter.Number
set_option autoImplicit false

/-- Decisions on the layout of a finite number. -/
structure FloatLayout where
  /-- The decimal exponents written without one; all of them when absent. -/
  positional : Option (Int × Int)
  /-- Whether a whole number in positional form ends in `.0`. -/
  wholeHasPoint : Bool
  /-- Whether an exponent that is not negative has a `+`. -/
  exponentHasPlus : Bool
  tie : Tie

/-- Shortest digits, never an exponent, no `.0`. -/
def plainLayout : FloatLayout := ⟨none, false, false, .upper⟩

/-- Positional from `1e-4` to below `1e16`, with `.0`. -/
def diagnosticLayout : FloatLayout := ⟨some (-4, 15), true, false, .upper⟩

/-- Positional from `1e-5` to below `1e16`, with `.0`. -/
def documentLayout : FloatLayout := ⟨some (-5, 15), true, true, .even⟩

/-- The digits around the decimal point. -/
def Digits.positional (d : Digits) (wholeHasPoint : Bool) : List Char :=
  let digits := Nat.toDigits 10 d.digits
  if d.exponent < 0 then
    ['0', '.'] ++ List.replicate (-d.exponent - 1).toNat '0' ++ digits
  else
    let whole := d.exponent.toNat + 1
    if digits.length ≤ whole then
      digits ++ List.replicate (whole - digits.length) '0' ++ (if wholeHasPoint then ['.', '0'] else [])
    else digits.take whole ++ '.' :: digits.drop whole

/-- One digit before the point, and the power of ten after an `e`. -/
def Digits.scientific (d : Digits) (hasPlus : Bool) : List Char :=
  let mantissa := match Nat.toDigits 10 d.digits with
    | first :: second :: rest => first :: '.' :: second :: rest
    | digits => digits
  let plus := if hasPlus && decide (0 ≤ d.exponent) then ['+'] else []
  mantissa ++ 'e' :: plus ++ (integerText d.exponent).toList

/-- The text of `x` in a layout. -/
def FloatLayout.text (layout : FloatLayout) (x : Double) : String :=
  if x.isNaN then "NaN"
  else
    let sign := if x.isNegative then ['-'] else []
    let body :=
      if x.isInfinite then ['i', 'n', 'f']
      else if x.isZero then (if layout.wholeHasPoint then ['0', '.', '0'] else ['0'])
      else
        let d := shortest layout.tie x
        let positional := match layout.positional with
          | none => true
          | some (low, high) => decide (low ≤ d.exponent) && decide (d.exponent ≤ high)
        if positional then d.positional layout.wholeHasPoint else d.scientific layout.exponentHasPlus
    String.ofList (sign ++ body)

end TreeAdapter.Number

namespace TreeAdapter.Double
open TreeAdapter.Number

/-- The text of a number as a value: shortest digits, never an exponent. -/
def text (x : Double) : String :=
  plainLayout.text x

/-- The text of a number in diagnostics. -/
def debug (x : Double) : String :=
  diagnosticLayout.text x

end TreeAdapter.Double
