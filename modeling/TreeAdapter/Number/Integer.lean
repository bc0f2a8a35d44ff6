import TreeAdapter.Number.Power

/-!
# Integers of 64 bits and their decimal text

Reading accepts an optional sign and at least one digit, and refuses what does not fit. Printing
writes the shortest decimal, so that reading gives the number back.
-/

namespace TreeAdapter.Number
set_option autoImplicit false

def int64Min : Int := -(pow2 63 : Int)
def int64Max : Int := (pow2 63 : Int) - 1

/-- `n` as a 64-bit integer, when it is one. -/
def int64? (n : Int) : Option Int64 :=
  if int64Min ≤ n ∧ n ≤ int64Max then some (Int64.ofInt n) else none

/-- The nearest 64-bit integer to `n`. -/
def clampInt64 (n : Int) : Int64 :=
  Int64.ofInt (max int64Min (min int64Max n))

/-- The value of a non-empty row of decimal digits. -/
def readDigits (cs : List Char) : Option Nat :=
  if cs.isEmpty || !cs.all Char.isDigit then none else some (Nat.ofDigitChars 10 cs 0)

/-- An optional sign and at least one digit. -/
def readInteger : List Char → Option Int
  | '-' :: cs => (readDigits cs).map fun n => -(n : Int)
  | '+' :: cs => (readDigits cs).map fun n => (n : Int)
  | cs => (readDigits cs).map fun n => (n : Int)

def readInt64 (s : String) : Option Int64 :=
  (readInteger s.toList).bind int64?

/-- The digits of `n`, after a minus sign when it is negative. -/
def integerText (n : Int) : String :=
  let digits := String.ofList (Nat.toDigits 10 n.natAbs)
  if n < 0 then "-" ++ digits else digits

def int64Text (n : Int64) : String :=
  integerText n.toInt

/-- `n` in decimal with zeros in front up to `width` digits. -/
def padded (width n : Nat) : String :=
  let digits := Nat.toDigits 10 n
  String.ofList (List.replicate (width - digits.length) '0' ++ digits)

end TreeAdapter.Number
