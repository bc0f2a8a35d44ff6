/-!
# Small primes

The primes below 1000 in order, numbered from one.
-/

namespace TreeAdapter.Number
set_option autoImplicit false

/-- Whether a number below 1024 is prime: no number up to 31 but itself divides it. -/
def isSmallPrime (n : Nat) : Bool :=
  decide (2 ≤ n) && (List.range 32).all fun d => decide (d < 2) || decide (n ≤ d) || n % d != 0

/-- The primes below 1000; a zero holds the place of number zero. -/
def primes : List Nat :=
  0 :: (List.range 1000).filter isSmallPrime

/-- The prime of a number, counted from one. -/
def prime (n : Nat) : Nat :=
  primes.getD n 0

end TreeAdapter.Number
