import Mathlib.Logic.Basic
import Mathlib.Tactic.ByContra

/-!
# The order of texts by their bytes

Texts are ordered by the code points of their characters. That is the order of their bytes in
UTF-8: the encodings of two characters differ at some byte, in the order of the characters
(`utf8EncodeChar_lt`), and so do those of two texts (`utf8_le_iff`).
-/

namespace TreeAdapter.Text
set_option autoImplicit false

/-- The bytes of a text in UTF-8. -/
def utf8 (s : String) : List UInt8 :=
  s.toUTF8.data.toList

theorem utf8_eq (s : String) : utf8 s = s.toList.flatMap String.utf8EncodeChar := by
  have encoded : s.toUTF8 = (s.toList.flatMap String.utf8EncodeChar).toByteArray := by
    rw [String.toUTF8_eq_toByteArray, ← String.utf8Encode_toList]
    rfl
  rw [utf8, encoded, List.data_toByteArray]

/-- One byte to four: the digits of the code point `n` to the base 64, the first of them marked with
the number of bytes. -/
inductive Encodes (n : Nat) : List UInt8 → Prop where
  | one (small : n < 128) : Encodes n [.ofNat n]
  | two (a b : Nat) (digits : n = 64 * a + b) (ha : a < 32) (hb : b < 64) (large : 128 ≤ n) :
      Encodes n [.ofNat (a + 192), .ofNat (b + 128)]
  | three (a b c : Nat) (digits : n = 4096 * a + 64 * b + c) (ha : a < 16) (hb : b < 64)
      (hc : c < 64) (large : 2048 ≤ n) :
      Encodes n [.ofNat (a + 224), .ofNat (b + 128), .ofNat (c + 128)]
  | four (a b c d : Nat) (digits : n = 262144 * a + 4096 * b + 64 * c + d) (ha : a < 8)
      (hb : b < 64) (hc : c < 64) (hd : d < 64) (large : 65536 ≤ n) :
      Encodes n [.ofNat (a + 240), .ofNat (b + 128), .ofNat (c + 128), .ofNat (d + 128)]

theorem encodes_utf8EncodeChar (c : Char) : Encodes c.val.toNat (String.utf8EncodeChar c) := by
  have bound : c.val.toNat < 1114112 := by
    rcases c.valid with low | ⟨_, high⟩
    · exact Nat.lt_trans low (by decide)
    · exact high
  unfold String.utf8EncodeChar
  generalize c.val.toNat = n at bound
  dsimp only
  split
  · exact .one (by omega)
  split
  · exact .two _ _ (by omega) (by omega) (by omega) (by omega)
  split
  · exact .three _ _ _ (by omega) (by omega) (by omega) (by omega) (by omega)
  · exact .four _ _ _ _ (by omega) (by omega) (by omega) (by omega) (by omega) (by omega)

/-- The bytes of the lesser of two code points come first, whatever follows either of them. -/
theorem Encodes.lt {m n : Nat} {bs cs : List UInt8} (own : Encodes m bs) (other : Encodes n cs)
    (less : m < n) (xs ys : List UInt8) : bs ++ xs < cs ++ ys := by
  -- a shorter encoding begins with a lesser byte, and one of the same length differs at a digit
  cases own <;> cases other
  all_goals
    simp only [List.cons_append, List.nil_append, List.cons_lt_cons_iff, UInt8.lt_iff_toNat_lt,
      ← UInt8.toNat_inj, UInt8.toNat_ofNat']
    omega

theorem utf8EncodeChar_lt {c d : Char} (h : c < d) (xs ys : List UInt8) :
    String.utf8EncodeChar c ++ xs < String.utf8EncodeChar d ++ ys :=
  (encodes_utf8EncodeChar c).lt (encodes_utf8EncodeChar d) h xs ys

theorem flatMap_utf8EncodeChar_lt {cs ds : List Char} (h : cs < ds) :
    cs.flatMap String.utf8EncodeChar < ds.flatMap String.utf8EncodeChar := by
  induction h with
  | @nil d ds =>
    rw [List.flatMap_nil, List.flatMap_cons]
    cases bytes : String.utf8EncodeChar d with
    | nil => exact absurd bytes String.utf8EncodeChar_ne_nil
    | cons b bs => exact List.nil_lt_cons b _
  | rel less =>
    rw [List.flatMap_cons, List.flatMap_cons]
    exact utf8EncodeChar_lt less _ _
  | cons _ ih =>
    rw [List.flatMap_cons, List.flatMap_cons]
    exact List.append_left_lt ih

theorem utf8_lt_of_lt {s t : String} (h : s < t) : utf8 s < utf8 t := by
  rw [utf8_eq, utf8_eq]
  exact flatMap_utf8EncodeChar_lt h

theorem utf8_le_iff {s t : String} : utf8 s ≤ utf8 t ↔ s ≤ t := by
  rw [← List.not_lt, ← String.not_lt, not_iff_not]
  refine ⟨fun less => ?_, utf8_lt_of_lt⟩
  by_contra there
  by_cases before : s < t
  · exact List.lt_asymm (utf8_lt_of_lt before) less
  · obtain rfl : s = t := String.le_antisymm (String.not_lt.1 there) (String.not_lt.1 before)
    exact List.lt_irrefl _ less

end TreeAdapter.Text
