import Mathlib.Algebra.Order.Ring.Int
import Mathlib.Tactic.Ring
import TreeAdapter.Number.Double

/-!
# Rounding to double precision

What the conversion of numbers to 64-bit floating-point numbers computes, which a cast of integers
to floating point relies on. A finite number is a whole number of `units`, of which 2 to the power
of 1074 make up `one`, so that distances are compared as integers. A quotient falls into one binade
(`InBinade`), in which the finite numbers are the multiples of one power of two; numbers below the
binade are farther away than its least one.

* `ofRatio_rounds`, `ofInt_rounds` — the result is nearest among the finite numbers, and even at a
  tie
-/

namespace TreeAdapter.Double
set_option autoImplicit false
open Number

/-! ## The nearest multiple -/

section
variable {a d : Nat}

/-- The quotient is rounded down when the remainder is less than half the divisor, up when it is
more, and to the even neighbour at half. -/
theorem divNearestEven_cases (a d : Nat) :
    (divNearestEven a d = a / d ∧ 2 * (a % d) ≤ d ∧ (2 * (a % d) = d → a / d % 2 = 0)) ∨
    (divNearestEven a d = a / d + 1 ∧ d ≤ 2 * (a % d) ∧
      (2 * (a % d) = d → (a / d + 1) % 2 = 0)) := by
  unfold divNearestEven
  dsimp only
  split
  · exact .inl ⟨rfl, by omega, by omega⟩
  · split
    · exact .inr ⟨rfl, by omega, by omega⟩
    · split
      · exact .inl ⟨rfl, by omega, fun _ => ‹_›⟩
      · exact .inr ⟨rfl, by omega, by omega⟩

/-- The rounded quotient is off by half a divisor at most, and by no more than that when it is
odd. -/
theorem divNearestEven_near (pos : 0 < d) :
    2 * ((a : Int) - divNearestEven a d * d).natAbs ≤ d ∧
      (2 * ((a : Int) - divNearestEven a d * d).natAbs = d → divNearestEven a d % 2 = 0) := by
  have whole : (a : Int) = (a / d : Nat) * d + (a % d : Nat) := by
    exact_mod_cast (Nat.div_add_mod' a d).symm
  have rest := Nat.mod_lt a pos
  rcases divNearestEven_cases a d with ⟨eq, half, even⟩ | ⟨eq, half, even⟩
  · have off : (a : Int) - divNearestEven a d * d = (a % d : Nat) := by rw [eq]; omega
    rw [off, eq]
    omega
  · have off : (a : Int) - divNearestEven a d * d = (a % d : Nat) - d := by
      rw [eq, Nat.cast_add, add_mul]
      omega
    rw [off, eq]
    omega

/-- No multiple of the divisor is nearer, and when another is as near the quotient is even. -/
theorem divNearestEven_nearest (pos : 0 < d) (i : Int) :
    ((a : Int) - divNearestEven a d * d).natAbs ≤ ((a : Int) - i * d).natAbs ∧
      (((a : Int) - divNearestEven a d * d).natAbs = ((a : Int) - i * d).natAbs →
        i = divNearestEven a d ∨ divNearestEven a d % 2 = 0) := by
  obtain ⟨near, even⟩ := divNearestEven_near (a := a) pos
  by_cases same : i = divNearestEven a d
  · rw [same]
    exact ⟨Nat.le_refl _, fun _ => .inl rfl⟩
  · have apart : (d : Int) ≤ ((i - divNearestEven a d) * d).natAbs := by
      rw [Int.natAbs_mul]
      have differ : 1 ≤ (i - divNearestEven a d).natAbs := by omega
      exact_mod_cast Nat.le_mul_of_pos_left d differ
    rw [Int.sub_mul] at apart
    generalize (divNearestEven a d : Int) * d = nearest at *
    generalize i * (d : Int) = other at *
    omega

/-- Only the quotient counts. -/
theorem divNearestEven_mul {c : Nat} (pos : 0 < c) (a d : Nat) :
    divNearestEven (a * c) (d * c) = divNearestEven a d := by
  unfold divNearestEven
  have twice : 2 * (a % d * c) = 2 * (a % d) * c := (Nat.mul_assoc 2 _ c).symm
  simp only [Nat.mul_div_mul_right _ _ pos, Nat.mul_mod_mul_right, twice,
    Nat.mul_lt_mul_right pos]

/-- Equal quotients are rounded alike. -/
theorem divNearestEven_congr {b e : Nat} (pos : 0 < d) (pos' : 0 < e) (same : a * e = b * d) :
    divNearestEven a d = divNearestEven b e := by
  rw [← divNearestEven_mul pos' a d, same, Nat.mul_comm d e, divNearestEven_mul pos b e]

end

/-! ## Finite numbers -/

/-- The power of two that the significand counts, in units. -/
def step (x : Double) : Nat :=
  (x.scale + 1074).toNat

/-- How many units make up one. -/
def one : Nat := 2 ^ 1074

theorem one_eq : one = 2 ^ 1074 := rfl

/-- The factor of a sign. -/
def signum (negative : Bool) : Int :=
  if negative then -1 else 1

theorem signum_eq (negative : Bool) : signum negative = 1 ∨ signum negative = -1 := by
  cases negative
  · exact .inl rfl
  · exact .inr rfl

@[simp] theorem signum_mul_self (negative : Bool) : signum negative * signum negative = 1 := by
  cases negative <;> rfl

/-- An integer is its sign times its magnitude. -/
theorem signum_mul_natAbs (n : Int) : signum (decide (n < 0)) * n.natAbs = n := by
  unfold signum
  split
  · next negative =>
    have := of_decide_eq_true negative
    omega
  · next positive =>
    have := of_decide_eq_false (Bool.eq_false_iff.2 positive)
    omega

/-- The value of a finite number in units. -/
def units (x : Double) : Int :=
  signum x.isNegative * (x.significand * 2 ^ x.step : Nat)

theorem pow2_eq (n : Nat) : pow2 n = 2 ^ n := rfl

/-- A significand has 53 bits. -/
theorem significand_lt (x : Double) : x.significand < 2 ^ 53 := by
  have fraction : x.fraction < 2 ^ 52 := by
    simp only [Double.fraction, pow2_eq]
    exact Nat.mod_lt _ (Nat.two_pow_pos 52)
  unfold significand
  rw [pow2_eq]
  split <;> omega

/-- A sign does not change a magnitude. -/
theorem natAbs_signum_mul (negative : Bool) (v : Int) : (signum negative * v).natAbs = v.natAbs := by
  rcases signum_eq negative with plus | minus
  · rw [plus, one_mul]
  · rw [minus, neg_one_mul, Int.natAbs_neg]

/-- A number is as large as its significand counts its step. -/
theorem natAbs_units (x : Double) : x.units.natAbs = x.significand * 2 ^ x.step := by
  rw [units, natAbs_signum_mul, Int.natAbs_natCast]

/-- A number of a finer step is below the significands of a coarser one. -/
theorem natAbs_units_lt {x : Double} {k : Nat} (finer : x.step < k) :
    x.units.natAbs < 2 ^ (k + 52) := by
  rw [natAbs_units]
  calc x.significand * 2 ^ x.step < 2 ^ 53 * 2 ^ x.step :=
        Nat.mul_lt_mul_of_pos_right x.significand_lt (Nat.two_pow_pos _)
    _ = 2 ^ (x.step + 53) := by ring
    _ ≤ 2 ^ (k + 52) := Nat.pow_le_pow_right (Nat.succ_pos 1) (by omega)

/-- A number of a coarser step is a multiple of a finer one. -/
theorem two_pow_dvd_units {x : Double} {k : Nat} (coarser : k ≤ x.step) :
    ((2 ^ k : Nat) : Int) ∣ x.units := by
  rw [Int.natCast_dvd, natAbs_units]
  exact Nat.dvd_mul_left_of_dvd (Nat.pow_dvd_pow 2 coarser) _

/-- The two parts of the bits. -/
theorem parts_ofMagnitude (negative : Bool) {m : Nat} (inRange : m < 2 ^ 63) :
    (ofMagnitude negative m).isNegative = negative ∧ (ofMagnitude negative m).magnitude = m := by
  have bits : (ofMagnitude negative m).bits.toNat = m + if negative then 2 ^ 63 else 0 := by
    have below : m + (if negative then 2 ^ 63 else 0) < 2 ^ 64 := by
      cases negative <;> simp <;> omega
    rw [← Nat.mod_eq_of_lt below, ← UInt64.toNat_ofNat']
    rfl
  unfold isNegative magnitude
  rw [bits, pow2_eq]
  cases negative <;> simp <;> omega

/-- The fields of a magnitude that is a significand on top of a number of steps. -/
theorem fields_ofMagnitude (negative : Bool) {k q : Nat} (inRange : k * 2 ^ 52 + q < 2047 * 2 ^ 52)
    (large : k = 0 ∨ 2 ^ 52 ≤ q) (small : q ≤ 2 ^ 53) :
    let x := ofMagnitude negative (k * 2 ^ 52 + q)
    x.isNegative = negative ∧ x.isFinite = true ∧ x.significand * 2 ^ x.step = q * 2 ^ k ∧
      (q % 2 = 0 → x.significand % 2 = 0) := by
  intro x
  obtain ⟨sign, magnitude⟩ := parts_ofMagnitude negative
    (Nat.lt_trans inRange (by decide : 2047 * 2 ^ 52 < 2 ^ 63))
  have field : x.exponentField = (k * 2 ^ 52 + q) / 2 ^ 52 := by
    rw [exponentField, magnitude, pow2_eq]
  have fraction : x.fraction = (k * 2 ^ 52 + q) % 2 ^ 52 := by
    rw [fraction, magnitude, pow2_eq]
  have finite : x.isFinite = true := by
    unfold isFinite
    rw [bne_iff_ne, field]
    omega
  refine ⟨sign, finite, ?_⟩
  unfold step scale significand
  rw [field, fraction, pow2_eq]
  -- below the first step, within the binade of a significand, or at the start of the next one
  rcases Nat.lt_or_ge q (2 ^ 52) with less | more
  · obtain rfl : k = 0 := large.resolve_right (Nat.not_le.2 less)
    have subnormal : (0 * 2 ^ 52 + q) / 2 ^ 52 = 0 := by omega
    rw [if_pos subnormal, if_pos subnormal]
    have rest : (0 * 2 ^ 52 + q) % 2 ^ 52 = q := by omega
    rw [rest]
    exact ⟨rfl, id⟩
  · rcases Nat.lt_or_eq_of_le small with within | carried
    · have normal : (k * 2 ^ 52 + q) / 2 ^ 52 = k + 1 := by omega
      have rest : (k * 2 ^ 52 + q) % 2 ^ 52 + 2 ^ 52 = q := by omega
      have place : (((k + 1 : Nat) : Int) - 1075 + 1074).toNat = k := by omega
      rw [normal, if_neg (Nat.succ_ne_zero k), if_neg (Nat.succ_ne_zero k), rest, place]
      exact ⟨rfl, id⟩
    · have next : (k * 2 ^ 52 + q) / 2 ^ 52 = k + 2 := by omega
      have rest : (k * 2 ^ 52 + q) % 2 ^ 52 + 2 ^ 52 = 2 ^ 52 := by omega
      have place : (((k + 2 : Nat) : Int) - 1075 + 1074).toNat = k + 1 := by omega
      rw [next, if_neg (Nat.succ_ne_zero _), if_neg (Nat.succ_ne_zero _), rest, place, carried]
      exact ⟨by ring, fun _ => rfl⟩

/-! ## Binades -/

/-- The quotient of `n` and `d` lies in the binade whose step is 2 to the power of `k`: its nearest
multiple of the step is a significand, and a full one unless the step is the least. -/
structure InBinade (n d k : Nat) : Prop where
  below : n < d * 2 ^ (k + 53)
  above : k = 0 ∨ d * 2 ^ (k + 52) ≤ n

namespace InBinade
variable {n d k : Nat}

/-- Above the lowest binade the rounded significand has its leading bit. -/
theorem le_divNearestEven (h : InBinade n d k) (pos : 0 < d) :
    k = 0 ∨ 2 ^ 52 ≤ divNearestEven n (d * 2 ^ k) := by
  refine h.above.imp_right fun above => ?_
  have unit : 0 < d * 2 ^ k := Nat.mul_pos pos (Nat.two_pow_pos k)
  have full : 2 ^ 52 ≤ n / (d * 2 ^ k) := by
    rw [Nat.le_div_iff_mul_le unit]
    calc 2 ^ 52 * (d * 2 ^ k) = d * 2 ^ (k + 52) := by ring
      _ ≤ n := above
  rcases divNearestEven_cases n (d * 2 ^ k) with ⟨eq, _⟩ | ⟨eq, _⟩ <;> omega

/-- In its binade a significand rounds to 53 bits, or to the start of the next one. -/
theorem divNearestEven_le (h : InBinade n d k) (pos : 0 < d) :
    divNearestEven n (d * 2 ^ k) ≤ 2 ^ 53 := by
  have unit : 0 < d * 2 ^ k := Nat.mul_pos pos (Nat.two_pow_pos k)
  have less : n / (d * 2 ^ k) < 2 ^ 53 := by
    rw [Nat.div_lt_iff_lt_mul unit]
    calc n < d * 2 ^ (k + 53) := h.below
      _ = 2 ^ 53 * (d * 2 ^ k) := by ring
  rcases divNearestEven_cases n (d * 2 ^ k) with ⟨eq, _⟩ | ⟨eq, _⟩ <;> omega

/-- A quotient with few bits has few steps below it. -/
theorem step_lt (h : InBinade n d k) (pos : 0 < d) {m : Nat} (small : n < 2 ^ m) :
    k = 0 ∨ k + 52 < m := by
  refine h.above.imp_right fun above => ?_
  have less : 2 ^ (k + 52) < 2 ^ m :=
    calc 2 ^ (k + 52) ≤ d * 2 ^ (k + 52) := Nat.le_mul_of_pos_left _ pos
      _ ≤ n := above
      _ < 2 ^ m := small
  exact (Nat.pow_lt_pow_iff_right (Nat.lt_succ_self 1)).1 less

/-- No finite number is nearer to the quotient than the nearest multiple of the step, and when
another is as near that multiple is even. -/
theorem nearest (h : InBinade n d k) (pos : 0 < d) (negative : Bool) (y : Double) :
    let q := divNearestEven n (d * 2 ^ k)
    let v := signum negative * y.units
    ((n : Int) - (q * 2 ^ k : Nat) * d).natAbs ≤ ((n : Int) - v * d).natAbs ∧
      (((n : Int) - (q * 2 ^ k : Nat) * d).natAbs = ((n : Int) - v * d).natAbs →
        v = (q * 2 ^ k : Nat) ∨ q % 2 = 0) := by
  intro q v
  have product (i : Int) : i * (d * 2 ^ k : Nat) = i * 2 ^ k * d := by
    push_cast
    ring
  have closest (i : Int) :
      ((n : Int) - q * 2 ^ k * d).natAbs ≤ ((n : Int) - i * 2 ^ k * d).natAbs ∧
        (((n : Int) - q * 2 ^ k * d).natAbs = ((n : Int) - i * 2 ^ k * d).natAbs →
          i = q ∨ q % 2 = 0) := by
    rw [← product, ← product]
    exact divNearestEven_nearest (Nat.mul_pos pos (Nat.two_pow_pos k)) i
  push_cast
  rcases Nat.lt_or_ge y.step k with finer | coarser
  · -- below the binade, whose least number is nearer
    have above : d * 2 ^ (k + 52) ≤ n := h.above.resolve_left (Nat.ne_zero_of_lt finer)
    have bound : v * d < d * (2 : Int) ^ (k + 52) := by
      rw [mul_comm (d : Int)]
      refine mul_lt_mul_of_pos_right ?_ (Int.natCast_pos.2 pos)
      calc v ≤ v.natAbs := Int.le_natAbs
        _ = y.units.natAbs := by rw [natAbs_signum_mul]
        _ < (2 : Int) ^ (k + 52) := by exact_mod_cast natAbs_units_lt finer
    have full : (d : Int) * 2 ^ (k + 52) ≤ n := by exact_mod_cast above
    have least := (closest (2 ^ 52)).1
    rw [show (2 : Int) ^ 52 * 2 ^ k * d = d * 2 ^ (k + 52) by ring] at least
    generalize (d : Int) * 2 ^ (k + 52) = start at *
    omega
  · -- the number is a multiple of the step
    obtain ⟨i, eq⟩ := (two_pow_dvd_units coarser).mul_left (signum negative)
    rw [show v = _ from eq, mul_comm ((2 ^ k : Nat) : Int), Nat.cast_pow, Nat.cast_ofNat]
    obtain ⟨near, even⟩ := closest i
    exact ⟨near, fun tie => (even tie).imp_left fun same => by rw [same]⟩

end InBinade

/-! ## Quotients and integers -/

section
variable {num den bias whole k : Nat}

/-- A quotient scaled down by a step is the same as in units over the step. -/
theorem scaled_spec (num : Nat) (pos : 0 < den) {exponent : Int} (units : whole = 2 ^ bias)
    (step : exponent + bias = k) :
    0 < (scaled num den exponent).2 ∧
      (scaled num den exponent).1 * (den * 2 ^ k) = num * whole * (scaled num den exponent).2 := by
  subst units
  unfold scaled
  by_cases large : 0 ≤ exponent
  · obtain ⟨m, rfl⟩ := Int.eq_ofNat_of_zero_le large
    obtain rfl : k = m + bias := by omega
    rw [if_pos large, Int.toNat_natCast, pow2_eq]
    exact ⟨Nat.mul_pos pos (Nat.two_pow_pos m), by ring⟩
  · obtain ⟨m, rfl⟩ : ∃ m : Nat, exponent = -m := ⟨exponent.natAbs, by omega⟩
    obtain rfl : bias = k + m := by omega
    rw [if_neg large, Int.neg_neg, Int.toNat_natCast, pow2_eq]
    exact ⟨pos, by ring⟩

/-- Scaling leaves the whole part of the quotient. -/
theorem scaled_div (num : Nat) (pos : 0 < den) {exponent : Int} (units : whole = 2 ^ bias)
    (step : exponent + bias = k) :
    (scaled num den exponent).1 / (scaled num den exponent).2 = num * whole / (den * 2 ^ k) := by
  obtain ⟨positive, same⟩ := scaled_spec num pos units step
  rw [← Nat.mul_div_mul_right _ _ (Nat.mul_pos pos (Nat.two_pow_pos k)), same,
    Nat.mul_comm (scaled num den exponent).2, Nat.mul_div_mul_right _ _ positive]

/-- Scaling leaves the rounded quotient. -/
theorem divNearestEven_scaled (num : Nat) (pos : 0 < den) {exponent : Int} (units : whole = 2 ^ bias)
    (step : exponent + bias = k) :
    divNearestEven (scaled num den exponent).1 (scaled num den exponent).2 =
      divNearestEven (num * whole) (den * 2 ^ k) := by
  obtain ⟨positive, same⟩ := scaled_spec num pos units step
  exact divNearestEven_congr positive (Nat.mul_pos pos (Nat.two_pow_pos k)) same

/-- A number below a power of two is below as many units. -/
theorem mul_lt_two_pow {m : Nat} (small : num < 2 ^ m) (units : whole = 2 ^ bias) :
    num * whole < 2 ^ (m + bias) := by
  rw [units, Nat.pow_add]
  exact Nat.mul_lt_mul_of_pos_right small (Nat.two_pow_pos bias)

/-- The binade of a quotient is known up to one from the lengths of its two parts. -/
theorem bounds_of_log2 (present : num ≠ 0) (pos : 0 < den) (units : whole = 2 ^ bias)
    (step : (max ((Nat.log2 num : Int) - Nat.log2 den - 53) (-bias)) + bias = k) :
    num * whole < den * 2 ^ (k + 54) ∧ (k = 0 ∨ den * 2 ^ (k + 52) ≤ num * whole) := by
  subst units
  have numAbove : num < 2 ^ (num.log2 + 1) := Nat.lt_log2_self
  have numBelow : 2 ^ num.log2 ≤ num := Nat.log2_self_le present
  have denAbove : den < 2 ^ (den.log2 + 1) := Nat.lt_log2_self
  have denBelow : 2 ^ den.log2 ≤ den := Nat.log2_self_le (Nat.ne_of_gt pos)
  constructor
  · calc num * 2 ^ bias < 2 ^ (num.log2 + 1) * 2 ^ bias :=
          Nat.mul_lt_mul_of_pos_right numAbove (Nat.two_pow_pos bias)
      _ = 2 ^ (num.log2 + 1 + bias) := (Nat.pow_add 2 _ _).symm
      _ ≤ 2 ^ (den.log2 + (k + 54)) := Nat.pow_le_pow_right (Nat.succ_pos 1) (by omega)
      _ = 2 ^ den.log2 * 2 ^ (k + 54) := Nat.pow_add 2 _ _
      _ ≤ den * 2 ^ (k + 54) := Nat.mul_le_mul_right _ denBelow
  · by_cases least : k = 0
    · exact .inl least
    · right
      calc den * 2 ^ (k + 52) ≤ 2 ^ (den.log2 + 1) * 2 ^ (k + 52) :=
            Nat.mul_le_mul_right _ (Nat.le_of_lt denAbove)
        _ = 2 ^ (den.log2 + 1 + (k + 52)) := (Nat.pow_add 2 _ _).symm
        _ ≤ 2 ^ (num.log2 + bias) := Nat.pow_le_pow_right (Nat.succ_pos 1) (by omega)
        _ = 2 ^ num.log2 * 2 ^ bias := Nat.pow_add 2 _ _
        _ ≤ num * 2 ^ bias := Nat.mul_le_mul_right _ numBelow

end

/-- The conversion chooses the binade of a quotient. -/
theorem exists_binade (negative : Bool) {num den : Nat} (present : num ≠ 0) (pos : 0 < den) :
    ∃ k, InBinade (num * one) den k ∧ ofRatio negative num den = ofMagnitude negative
      (min (k * 2 ^ 52 + divNearestEven (num * one) (den * 2 ^ k)) (2047 * 2 ^ 52)) := by
  let low : Int := max ((Nat.log2 num : Int) - Nat.log2 den - 53) (-1074)
  obtain ⟨k, lowest⟩ : ∃ k : Nat, low + (1074 : Nat) = k := ⟨(low + 1074).toNat, by omega⟩
  obtain ⟨below, above⟩ := bounds_of_log2 present pos one_eq lowest
  have fits : (scaled num den low).1 / (scaled num den low).2 < pow2 53 ↔
      num * one < den * 2 ^ (k + 53) := by
    rw [scaled_div num pos one_eq lowest, pow2_eq,
      Nat.div_lt_iff_lt_mul (Nat.mul_pos pos (Nat.two_pow_pos k)), Nat.mul_left_comm, ← Nat.pow_add,
      Nat.add_comm]
  let exponent := if (scaled num den low).1 / (scaled num den low).2 < pow2 53 then low else low + 1
  have result {j : Nat} (step : exponent + (1074 : Nat) = j) : ofRatio negative num den =
      ofMagnitude negative
        (min (j * 2 ^ 52 + divNearestEven (num * one) (den * 2 ^ j)) (2047 * 2 ^ 52)) := by
    have place : (exponent + 1074).toNat = j := by omega
    rw [← divNearestEven_scaled num pos one_eq step, ← place]
    unfold ofRatio
    rw [if_neg present]
    rfl
  rcases Nat.lt_or_ge (num * one) (den * 2 ^ (k + 53)) with lower | higher
  · refine ⟨k, ⟨lower, above⟩, result ?_⟩
    rw [← lowest]
    exact congrArg (· + _) (if_pos (fits.2 lower))
  · have next : exponent = low + 1 := if_neg (mt fits.1 (Nat.not_lt.2 higher))
    refine ⟨k + 1, ⟨?_, .inr ?_⟩, result (by omega)⟩
    · rw [Nat.add_assoc]
      exact below
    · rw [Nat.add_assoc]
      exact higher

/-- A number that is nearest to a quotient among the finite ones, and even when another is as
near. Both sides of a comparison are multiplied by the denominator and counted in units. -/
structure Rounds (num : Int) (den : Nat) (x : Double) : Prop where
  finite : x.isFinite = true
  nearest (y : Double) : y.isFinite = true →
    (num * one - x.units * den).natAbs ≤ (num * one - y.units * den).natAbs
  even (y : Double) : y.isFinite = true →
    (num * one - x.units * den).natAbs = (num * one - y.units * den).natAbs →
      y.units = x.units ∨ x.significand % 2 = 0

/-- Half the distance between neighbours is as far as rounding goes, so a magnitude that is still in
range is the significand on top of its steps. -/
theorem lt_of_isFinite {negative : Bool} {m : Nat}
    (finite : (ofMagnitude negative (min m (2047 * 2 ^ 52))).isFinite = true) :
    m < 2047 * 2 ^ 52 := by
  by_contra beyond
  rw [Nat.min_eq_right (Nat.not_lt.1 beyond)] at finite
  cases negative <;> cases finite

/-- The conversion of a quotient rounds it, unless it is out of range. -/
theorem ofRatio_rounds (negative : Bool) {num den : Nat} (pos : 0 < den)
    (finite : (ofRatio negative num den).isFinite = true) :
    Rounds (signum negative * num) den (ofRatio negative num den) := by
  by_cases absent : num = 0
  · obtain ⟨-, -, product, even⟩ := fields_ofMagnitude negative
      (by decide : 0 * 2 ^ 52 + 0 < 2047 * 2 ^ 52) (.inl rfl) (Nat.zero_le _)
    have eq : ofRatio negative num den = ofMagnitude negative (0 * 2 ^ 52 + 0) := if_pos absent
    rw [← eq] at product even
    have value : (ofRatio negative num den).units = 0 := by
      rw [units, product, Nat.zero_mul, Nat.cast_zero, mul_zero]
    refine ⟨finite, fun y _ => ?_, fun y _ _ => .inr (even rfl)⟩
    have exact : signum negative * (num : Nat) * one -
        (ofRatio negative num den).units * (den : Int) = 0 := by
      rw [value, absent, Nat.cast_zero, mul_zero, zero_mul, zero_mul, sub_zero]
    rw [exact, Int.natAbs_zero]
    exact Nat.zero_le _
  · obtain ⟨k, binade, eq⟩ := exists_binade negative absent pos
    rw [eq] at finite ⊢
    have inRange := lt_of_isFinite finite
    rw [Nat.min_eq_left (Nat.le_of_lt inRange)] at finite ⊢
    obtain ⟨sign, -, product, even⟩ := fields_ofMagnitude negative inRange
      (binade.le_divNearestEven pos) (binade.divNearestEven_le pos)
    generalize ofMagnitude negative
      (k * 2 ^ 52 + divNearestEven (num * one) (den * 2 ^ k)) = x at *
    have value : signum negative * x.units =
        (divNearestEven (num * one) (den * 2 ^ k) * 2 ^ k : Nat) := by
      rw [units, sign, product, ← mul_assoc, signum_mul_self, one_mul]
    have distance (v : Int) : (signum negative * num * one - v * den).natAbs =
        (((num * one : Nat) : Int) - signum negative * v * den).natAbs := by
      rcases signum_eq negative with plus | minus
      · rw [plus, one_mul, one_mul, Nat.cast_mul]
      · rw [minus, ← Int.natAbs_neg, Nat.cast_mul]
        congr 1
        ring
    refine ⟨finite, fun y _ => ?_, fun y _ tie => ?_⟩
    · rw [distance, distance, value]
      exact (binade.nearest pos negative y).1
    · rw [distance, distance, value] at tie
      refine ((binade.nearest pos negative y).2 tie).imp (fun same => ?_) even
      rw [← value] at same
      simpa [← mul_assoc] using congrArg (signum negative * ·) same

/-- The conversion of an integer rounds it, unless it is out of range. -/
theorem ofInt_rounds {n : Int} {m : Nat} (inRange : n.natAbs < 2 ^ m) (limit : m ≤ 1023) :
    Rounds n 1 (ofInt n) := by
  have finite : (ofInt n).isFinite = true := by
    unfold ofInt
    generalize decide (n < 0) = negative
    by_cases absent : n.natAbs = 0
    · rw [absent]
      cases negative <;> rfl
    · obtain ⟨k, binade, eq⟩ := exists_binade negative absent Nat.one_pos
      have small : k * 2 ^ 52 + divNearestEven (n.natAbs * one) (1 * 2 ^ k) < 2047 * 2 ^ 52 := by
        have steps := binade.step_lt Nat.one_pos (mul_lt_two_pow inRange one_eq)
        have full := binade.divNearestEven_le Nat.one_pos
        omega
      rw [eq, Nat.min_eq_left (Nat.le_of_lt small)]
      exact (fields_ofMagnitude negative small (binade.le_divNearestEven Nat.one_pos)
        (binade.divNearestEven_le Nat.one_pos)).2.1
  have rounds := ofRatio_rounds (decide (n < 0)) Nat.one_pos finite
  rwa [signum_mul_natAbs] at rounds

/-- No 64-bit integer is too large to be rounded. -/
theorem ofInt_toInt_rounds (n : Int64) : Rounds n.toInt 1 (ofInt n.toInt) := by
  have low := n.le_toInt
  have high := n.toInt_lt
  exact ofInt_rounds (by omega : n.toInt.natAbs < 2 ^ 64) (by decide)

end TreeAdapter.Double
