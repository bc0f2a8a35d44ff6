import Mathlib.Algebra.Ring.Nat
import TreeAdapter.Number.Layout

/-!
# Laws of number texts

Digits tell numbers apart (`toDigits_inj`), hence so do the texts of integers (`int64Text_inj`),
which are also read back (`readInt64_int64Text`), and so are numbers with zeros in front
(`ofDigitChars_padded`).
The text of a double holds nothing but digits, signs, points and the letters of its words
(`isNumberChar_of_mem_text`).
-/

namespace TreeAdapter.Number
set_option autoImplicit false

/-! ## Digits -/

theorem digitChar_inj {m n : Nat} (hm : m < 16) (hn : n < 16)
    (h : Nat.digitChar m = Nat.digitChar n) : m = n := by
  have table : ∀ m < 16, ∀ n < 16, Nat.digitChar m = Nat.digitChar n → m = n := by decide
  exact table m hm n hn h

/-- Digits to a base of at most sixteen, which every digit has a character for. -/
theorem toDigits_inj {b m n : Nat} (hb : 1 < b) (small : b ≤ 16)
    (h : Nat.toDigits b m = Nat.toDigits b n) : m = n := by
  induction m using Nat.strongRecOn generalizing n with
  | ind m ih =>
    have longer {k : Nat} (hk : b ≤ k) : 1 < (Nat.toDigits b k).length := by
      have front := Nat.length_toDigits_pos (b := b) (n := k / b)
      rw [Nat.toDigits_of_base_le hb hk, List.length_append, List.length_singleton]
      omega
    rcases Nat.lt_or_ge m b with hm | hm <;> rcases Nat.lt_or_ge n b with hn | hn
    · rw [Nat.toDigits_of_lt_base hm, Nat.toDigits_of_lt_base hn, List.cons.injEq] at h
      exact digitChar_inj (by omega) (by omega) h.1
    · have more := longer hn
      rw [← h, Nat.toDigits_of_lt_base hm, List.length_singleton] at more
      omega
    · have more := longer hm
      rw [h, Nat.toDigits_of_lt_base hn, List.length_singleton] at more
      omega
    · rw [Nat.toDigits_of_base_le hb hm, Nat.toDigits_of_base_le hb hn] at h
      obtain ⟨front, last⟩ := List.append_inj' h rfl
      have quotients : m / b = n / b := ih (m / b) (Nat.div_lt_self (by omega) hb) front
      have remainders : m % b = n % b := by
        have rm := Nat.mod_lt m (by omega : 0 < b)
        have rn := Nat.mod_lt n (by omega : 0 < b)
        exact digitChar_inj (by omega) (by omega) (List.cons.inj last).1
      rw [← Nat.div_add_mod m b, ← Nat.div_add_mod n b, quotients, remainders]

/-- A numeral is made of the digits of its base. -/
theorem exists_digitChar_of_mem {b n : Nat} (hb : 1 < b) {c : Char} (h : c ∈ Nat.toDigits b n) :
    ∃ d < b, c = Nat.digitChar d := by
  induction n using Nat.strongRecOn with
  | ind n ih =>
    rw [Nat.toDigits_eq_if hb] at h
    by_cases hn : n < b
    · rw [if_pos hn, List.mem_singleton] at h
      exact ⟨n, hn, h⟩
    · rw [if_neg hn, List.mem_append, List.mem_singleton] at h
      rcases h with front | last
      · exact ih (n / b) (Nat.div_lt_self (by omega) hb) front
      · exact ⟨n % b, Nat.mod_lt n (by omega), last⟩

/-! ## Integers -/

/-- The text of an integer is its sign, if it is negative, and the digits of its magnitude. -/
theorem toList_integerText (n : Int) :
    (integerText n).toList = (if n < 0 then ['-'] else []) ++ Nat.toDigits 10 n.natAbs := by
  unfold integerText
  split <;> simp

/-- Integers with one text are equal. -/
theorem integerText_inj {m n : Int} (h : integerText m = integerText n) : m = n := by
  have same := congrArg String.toList h
  rw [toList_integerText, toList_integerText] at same
  have minus (k : Nat) : '-' ∉ Nat.toDigits 10 k := by
    intro mem
    exact absurd (Nat.isDigit_of_mem_toDigits (by decide) (by decide) mem) (by decide)
  by_cases hm : m < 0 <;> by_cases hn : n < 0
  · rw [if_pos hm, if_pos hn, List.append_cancel_left_eq] at same
    have digits : m.natAbs = n.natAbs := toDigits_inj (by decide) (by decide) same
    omega
  · have sign : '-' ∈ Nat.toDigits 10 n.natAbs := by
      rw [if_pos hm, if_neg hn, List.nil_append] at same
      simp [← same]
    exact absurd sign (minus _)
  · have sign : '-' ∈ Nat.toDigits 10 m.natAbs := by
      rw [if_neg hm, if_pos hn, List.nil_append] at same
      simp [same]
    exact absurd sign (minus _)
  · rw [if_neg hm, if_neg hn, List.append_cancel_left_eq] at same
    have digits : m.natAbs = n.natAbs := toDigits_inj (by decide) (by decide) same
    omega

theorem int64Text_inj {m n : Int64} (h : int64Text m = int64Text n) : m = n :=
  Int64.toInt_inj.1 (integerText_inj h)

/-! ## Reading integers back -/

/-- The digits of a number read back. -/
theorem readDigits_toDigits (n : Nat) : readDigits (Nat.toDigits 10 n) = some n := by
  have digits : (Nat.toDigits 10 n).all Char.isDigit = true :=
    List.all_eq_true.2 fun c mem => Nat.isDigit_of_mem_toDigits (by decide) (by decide) mem
  have written : (Nat.toDigits 10 n).isEmpty = false :=
    List.isEmpty_eq_false_iff.2 (List.ne_nil_of_length_pos Nat.length_toDigits_pos)
  rw [readDigits, digits, written, Nat.ofDigitChars_ten_toDigits]
  rfl

/-- The text of an integer reads back. -/
theorem readInteger_integerText (n : Int) : readInteger (integerText n).toList = some n := by
  have digits := readDigits_toDigits n.natAbs
  rw [toList_integerText]
  by_cases negative : n < 0
  · have value : -((n.natAbs : Nat) : Int) = n := by omega
    rw [if_pos negative, List.singleton_append, readInteger, digits]
    exact congrArg some value
  · rw [if_neg negative, List.nil_append]
    have value : ((n.natAbs : Nat) : Int) = n := Int.natAbs_of_nonneg (by omega)
    unfold readInteger
    -- no sign is a digit, so the text is read by its digits
    split
    · next sign => exact absurd (Nat.isDigit_of_mem_toDigits (by decide) (by decide)
        (sign ▸ List.mem_cons_self)) (by decide)
    · next sign => exact absurd (Nat.isDigit_of_mem_toDigits (by decide) (by decide)
        (sign ▸ List.mem_cons_self)) (by decide)
    · rw [digits]
      exact congrArg some value

theorem int64?_toInt (n : Int64) : int64? n.toInt = some n := by
  have low : int64Min ≤ n.toInt := Int64.le_toInt n
  have high : n.toInt ≤ int64Max := Int64.toInt_le n
  rw [int64?, if_pos ⟨low, high⟩, Int64.ofInt_toInt]

/-- The text of a 64-bit integer reads back; it is never out of range. -/
theorem readInt64_int64Text (n : Int64) : readInt64 (int64Text n) = some n := by
  rw [readInt64, int64Text, readInteger_integerText, Option.bind_some, int64?_toInt]

/-! ## Rows of digits of a given width -/

/-- Padding is done with digits. -/
theorem isDigit_of_mem_padded {width n : Nat} :
    ∀ c ∈ (padded width n).toList, c.isDigit = true := by
  rw [padded, String.toList_ofList, List.forall_mem_append]
  refine ⟨fun c mem => ?_, fun c => Nat.isDigit_of_mem_toDigits (by decide) (by decide)⟩
  rw [List.eq_of_mem_replicate mem]
  rfl

/-- A number that fits is padded to the width. -/
theorem length_padded {width n : Nat} (pos : 0 < width) (fits : n < 10 ^ width) :
    (padded width n).toList.length = width := by
  have short := (Nat.length_toDigits_le_iff (by decide) pos).2 fits
  rw [padded, String.toList_ofList, List.length_append, List.length_replicate]
  omega

/-- Zeros in front of a number do not count. -/
theorem ofDigitChars_padded (width n : Nat) :
    Nat.ofDigitChars 10 (padded width n).toList 0 = n := by
  rw [padded, String.toList_ofList, Nat.ofDigitChars_append, Nat.ofDigitChars_replicate_zero,
    Nat.mul_zero, Nat.ofDigitChars_ten_toDigits]

/-- So many digits write a number below that power of ten. -/
theorem ofDigitChars_lt {cs : List Char} (digits : ∀ c ∈ cs, c.isDigit = true) :
    Nat.ofDigitChars 10 cs 0 < 10 ^ cs.length := by
  induction cs with
  | nil => decide
  | cons c rest ih =>
    obtain ⟨first, later⟩ := List.forall_mem_cons.1 digits
    have range : 48 ≤ c.toNat ∧ c.toNat ≤ 57 := Char.isDigit_iff_toNat.1 first
    have zero : '0'.toNat = 48 := rfl
    have weight : 10 ^ rest.length * (c.toNat - 48) ≤ 10 ^ rest.length * 9 :=
      Nat.mul_le_mul_left _ (by omega)
    have below := ih later
    rw [Nat.ofDigitChars_cons, Nat.ofDigitChars_eq_ofDigitChars_zero, Nat.mul_zero, Nat.zero_add,
      zero, List.length_cons, Nat.pow_succ]
    omega

/-! ## Characters of numbers -/

/-- A character that the text of a number may hold. -/
def isNumberChar (c : Char) : Bool :=
  c.isDigit || ['-', '+', '.', 'e', 'N', 'a', 'i', 'n', 'f'].contains c

theorem isNumberChar_of_mem_digits {n : Nat} :
    ∀ c ∈ Nat.toDigits 10 n, isNumberChar c = true := by
  intro c mem
  simp [isNumberChar, Nat.isDigit_of_mem_toDigits (by decide) (by decide) mem]

theorem isNumberChar_of_mem_integerText {n : Int} :
    ∀ c ∈ (integerText n).toList, isNumberChar c = true := by
  rw [toList_integerText, List.forall_mem_append]
  refine ⟨?_, isNumberChar_of_mem_digits⟩
  split <;> exact List.all_eq_true.1 (by decide)

theorem isNumberChar_of_mem_zeros {n : Nat} :
    ∀ c ∈ List.replicate n '0', isNumberChar c = true := by
  intro c mem
  rw [List.eq_of_mem_replicate mem]
  decide

theorem isNumberChar_of_mem_positional {d : Digits} {wholeHasPoint : Bool} :
    ∀ c ∈ d.positional wholeHasPoint, isNumberChar c = true := by
  have digits := isNumberChar_of_mem_digits (n := d.digits)
  unfold Digits.positional
  dsimp only
  split
  · simp only [List.forall_mem_append]
    exact ⟨⟨List.all_eq_true.1 (by decide), isNumberChar_of_mem_zeros⟩, digits⟩
  · split
    · simp only [List.forall_mem_append]
      refine ⟨⟨digits, isNumberChar_of_mem_zeros⟩, ?_⟩
      split <;> exact List.all_eq_true.1 (by decide)
    · simp only [List.forall_mem_append, List.forall_mem_cons]
      exact ⟨fun c mem => digits c (List.mem_of_mem_take mem), by decide,
        fun c mem => digits c (List.mem_of_mem_drop mem)⟩

theorem isNumberChar_of_mem_scientific {d : Digits} {hasPlus : Bool} :
    ∀ c ∈ d.scientific hasPlus, isNumberChar c = true := by
  have digits := isNumberChar_of_mem_digits (n := d.digits)
  unfold Digits.scientific
  dsimp only
  rw [List.forall_mem_append, List.forall_mem_append, List.forall_mem_cons]
  refine ⟨⟨?_, by decide, ?_⟩, isNumberChar_of_mem_integerText⟩
  · split
    · next first second rest eq =>
      rw [eq] at digits
      simp only [List.forall_mem_cons] at digits ⊢
      exact ⟨digits.1, by decide, digits.2⟩
    · exact digits
  · split <;> exact List.all_eq_true.1 (by decide)

/-- The text of a double is made of number characters, whatever the layout, also where the double is
infinite or no number. -/
theorem isNumberChar_of_mem_text (layout : FloatLayout) (x : Double) :
    ∀ c ∈ (layout.text x).toList, isNumberChar c = true := by
  let d := shortest layout.tie x
  have laid (positional : Bool) : ∀ c ∈ (if positional then d.positional layout.wholeHasPoint
      else d.scientific layout.exponentHasPlus), isNumberChar c = true := by
    cases positional with
    | true => exact isNumberChar_of_mem_positional
    | false => exact isNumberChar_of_mem_scientific
  unfold FloatLayout.text
  dsimp only
  split
  · exact List.all_eq_true.1 (by decide)
  · rw [String.toList_ofList, List.forall_mem_append]
    refine ⟨by split <;> exact List.all_eq_true.1 (by decide), ?_⟩
    split
    · exact List.all_eq_true.1 (by decide)
    · split
      · split <;> exact List.all_eq_true.1 (by decide)
      · exact laid _

end TreeAdapter.Number
