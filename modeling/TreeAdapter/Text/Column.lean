/-!
# Columns

Texts filled up with spaces to the width of a column, counted in characters. A text that is too
wide stays as it is.
-/

namespace TreeAdapter.Text
set_option autoImplicit false

def spacesUpTo (width : Nat) (s : String) : String :=
  String.ofList (List.replicate (width - s.length) ' ')

def alignLeft (width : Nat) (s : String) : String :=
  s ++ spacesUpTo width s

def alignRight (width : Nat) (s : String) : String :=
  spacesUpTo width s ++ s

end TreeAdapter.Text
