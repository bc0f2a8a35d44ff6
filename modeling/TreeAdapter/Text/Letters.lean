import TreeAdapter.Text.Ranges
import TreeAdapter.Text.Letters.Table

/-!
# Letters, digits and capitals

The character classes that names are made of. Below 128 they are the ASCII classes; from there
on the Unicode tables decide.
-/

namespace TreeAdapter.Text
set_option autoImplicit false

/-- The Unicode property `Alphabetic`. -/
def isAlphabetic (c : Char) : Bool :=
  if c.toNat < 128 then c.isAlpha else inRanges alphabeticRanges c.toNat

/-- A number of any kind, `²` and `Ⅷ` included. -/
def isNumeric (c : Char) : Bool :=
  if c.toNat < 128 then c.isDigit else inRanges numericRanges c.toNat

def isAlphanumeric (c : Char) : Bool :=
  isAlphabetic c || isNumeric c

/-- The Unicode property `Uppercase`. -/
def isUppercase (c : Char) : Bool :=
  if c.toNat < 128 then c.isUpper else inRanges uppercaseRanges c.toNat

theorem isAlphabetic_of_lt {c : Char} (h : c.toNat < 128) : isAlphabetic c = c.isAlpha := by
  simp [isAlphabetic, h]

theorem isNumeric_of_lt {c : Char} (h : c.toNat < 128) : isNumeric c = c.isDigit := by
  simp [isNumeric, h]

theorem isUppercase_of_lt {c : Char} (h : c.toNat < 128) : isUppercase c = c.isUpper := by
  simp [isUppercase, h]

end TreeAdapter.Text
