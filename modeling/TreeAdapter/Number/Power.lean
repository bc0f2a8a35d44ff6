/-!
# Powers of two and ten

The weights of binary and decimal places.
-/

namespace TreeAdapter.Number
set_option autoImplicit false

def pow2 (n : Nat) : Nat := Nat.pow 2 n

def pow10 (n : Nat) : Nat := Nat.pow 10 n

end TreeAdapter.Number
