import TreeAdapter.Text.LowerCase.Table

/-!
# Lower case

The full lower-case mapping of one character. It is one character long except for `İ`, which
becomes `i` and a combining dot.
-/

namespace TreeAdapter.Text
set_option autoImplicit false

/-- The image of code point `n` under the runs of the simple mapping; itself when no run holds
it. -/
def lowerCasePoint (n : Nat) : Nat :=
  match lowerCaseRuns.find? fun (lo, hi, step, _) =>
      decide (lo ≤ n) && decide (n ≤ hi) && decide ((n - lo) % step = 0) with
  | some (lo, _, _, image) => image + (n - lo)
  | none => n

/-- `c` in lower case. -/
def lowerCase (c : Char) : List Char :=
  if c.toNat < 128 then [c.toLower]
  else if c = 'İ' then ['i', '\u0307']
  else [Char.ofNat (lowerCasePoint c.toNat)]

theorem lowerCase_of_lt {c : Char} (h : c.toNat < 128) : lowerCase c = [c.toLower] := by
  simp [lowerCase, h]

end TreeAdapter.Text
