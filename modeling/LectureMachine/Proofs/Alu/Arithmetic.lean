import Mathlib.Algebra.Group.Int.Defs
import Mathlib.Algebra.Group.Nat.Defs
import Mathlib.Tactic.Lemma
import LectureMachine.Word

/-!
# Products and quotients of words

Products and wide quotients are computed in 128 bits and handed out in halves. Here the halves are
told from the numbers that the words stand for.
-/

namespace LectureMachine.Word

/-! ### Products of signed numbers -/

lemma signExtend_mul_signExtend (x y : Word) :
    x.signExtend 128 * y.signExtend 128 = BitVec.ofInt 128 (x.toInt * y.toInt) := by
  rw [BitVec.ofInt_mul]
  rfl

lemma low_ofInt (n : Int) : (BitVec.ofInt 128 n).extractLsb' 0 64 = BitVec.ofInt 64 n := by
  apply BitVec.eq_of_toNat_eq
  rw [BitVec.extractLsb'_toNat, BitVec.toNat_ofInt, BitVec.toNat_ofInt, Nat.shiftRight_zero]
  omega

lemma high_ofInt (n : Int) :
    (BitVec.ofInt 128 n).extractLsb' 64 64 = BitVec.ofInt 64 (n / 2 ^ 64) := by
  apply BitVec.eq_of_toNat_eq
  rw [BitVec.extractLsb'_toNat, BitVec.toNat_ofInt, BitVec.toNat_ofInt, Nat.shiftRight_eq_div_pow]
  omega

lemma ofInt_eq_zero_iff {n : Int} (hlow : -2 ^ 63 ≤ n) (hhigh : n < 2 ^ 63) :
    BitVec.ofInt 64 n = 0 ↔ n = 0 := by
  have hzero : (0 : Word).toNat = 0 := rfl
  rw [← BitVec.toNat_inj, BitVec.toNat_ofInt, hzero]
  omega

/-- The high word of a product is zero just if the product fits into one word as an unsigned
number. -/
lemma high_product_eq_zero_iff (x y : Word) :
    (x.signExtend 128 * y.signExtend 128).extractLsb' 64 64 = 0 ↔
      x.toInt * y.toInt / 2 ^ 64 = 0 := by
  have hlow := BitVec.le_toInt_mul_toInt (x := x) (y := y)
  have hhigh := BitVec.toInt_mul_toInt_le (x := x) (y := y)
  rw [signExtend_mul_signExtend, high_ofInt, ofInt_eq_zero_iff (by omega) (by omega)]

/-! ### Quotients -/

lemma toNat_append (high low : Word) : (high ++ low).toNat = high.toNat * 2 ^ 64 + low.toNat := by
  rw [BitVec.toNat_append, ← Nat.shiftLeft_add_eq_or_of_lt low.isLt, Nat.shiftLeft_eq]

lemma toNat_setWidth_double (w : Word) : (w.setWidth 128).toNat = w.toNat := by
  rw [BitVec.toNat_setWidth]
  omega

lemma low_div {w : Nat} (n d : BitVec w) :
    (n / d).extractLsb' 0 64 = BitVec.ofNat 64 (n.toNat / d.toNat) := by
  apply BitVec.eq_of_toNat_eq
  rw [BitVec.extractLsb'_toNat, BitVec.toNat_udiv, BitVec.toNat_ofNat, Nat.shiftRight_zero]

lemma high_div {w : Nat} (n d : BitVec w) :
    (n / d).extractLsb' 64 64 = BitVec.ofNat 64 (n.toNat / d.toNat / 2 ^ 64) := by
  apply BitVec.eq_of_toNat_eq
  rw [BitVec.extractLsb'_toNat, BitVec.toNat_udiv, BitVec.toNat_ofNat, Nat.shiftRight_eq_div_pow]

lemma low_mod {w : Nat} (n d : BitVec w) :
    (n % d).extractLsb' 0 64 = BitVec.ofNat 64 (n.toNat % d.toNat) := by
  apply BitVec.eq_of_toNat_eq
  rw [BitVec.extractLsb'_toNat, BitVec.toNat_umod, BitVec.toNat_ofNat, Nat.shiftRight_zero]

/-- A number that fits into two words is made up of them again. -/
lemma low_add_high {n : Nat} (h : n < 2 ^ 128) :
    (BitVec.ofNat 64 n).toNat + 2 ^ 64 * (BitVec.ofNat 64 (n / 2 ^ 64)).toNat = n := by
  have hhigh : n / 2 ^ 64 < 2 ^ 64 := by omega
  rw [BitVec.toNat_ofNat, BitVec.toNat_ofNat, Nat.mod_eq_of_lt hhigh]
  exact Nat.mod_add_div n (2 ^ 64)

lemma sdiv_eq_ofInt (x y : Word) : x.sdiv y = BitVec.ofInt 64 (x.toInt.tdiv y.toInt) := by
  apply BitVec.eq_of_toInt_eq
  rw [BitVec.toInt_sdiv, BitVec.toInt_ofInt]

/-- Only the quotient of the least number by minus one does not fit into a word. -/
lemma toInt_sdiv_of_fits {x y : Word} (h : ¬ (x.toInt = -2 ^ 63 ∧ y.toInt = -1)) :
    (x.sdiv y).toInt = x.toInt.tdiv y.toInt := by
  apply BitVec.toInt_sdiv_of_ne_or_ne
  by_cases hx : x = BitVec.intMin 64
  · right
    rintro rfl
    exact h ⟨hx ▸ rfl, rfl⟩
  · exact .inl hx

/-- That quotient is the least number again, and nothing remains. -/
lemma toInt_sdiv_of_wraps {x y : Word} (hx : x.toInt = -2 ^ 63) (hy : y.toInt = -1) :
    (x.sdiv y).toInt = -2 ^ 63 ∧ (x.srem y).toInt = 0 := by
  rw [BitVec.toInt_sdiv, BitVec.toInt_srem, hx, hy]
  decide

lemma srem_eq_ofInt (x y : Word) :
    x.srem y = BitVec.ofInt 64 (x.toInt - y.toInt * x.toInt.tdiv y.toInt) := by
  rw [← Int.tmod_def, ← BitVec.toInt_srem, BitVec.ofInt_toInt]

/-! ### Bytes -/

/-- A byte and the word that it becomes are zero together. -/
lemma setWidth_eq_zero_iff (b : Byte) : b.setWidth 64 = (0 : Word) ↔ b = 0 := by
  have hb := b.isLt
  have hzero : (0 : Word).toNat = 0 := rfl
  have hzero' : (0 : Byte).toNat = 0 := rfl
  rw [← BitVec.toNat_inj, ← BitVec.toNat_inj, BitVec.toNat_setWidth, hzero, hzero']
  omega

/-! ### Multiples -/

lemma shiftLeft_two (w : Word) : w <<< 2 = 4 * w := by
  rw [BitVec.shiftLeft_eq_mul_twoPow, BitVec.mul_comm]
  rfl

/-! ### Differences -/

lemma ofInt_sub (m n : Int) :
    BitVec.ofInt 64 (m - n) = BitVec.ofInt 64 m - BitVec.ofInt 64 n := by
  rw [Int.sub_eq_add_neg, BitVec.ofInt_add, BitVec.ofInt_neg, ← BitVec.sub_eq_add_neg]

lemma sub_eq_zero_iff (x y : Word) : y - x = 0 ↔ y = x := by
  have hx := x.isLt
  have hy := y.isLt
  have hzero : (0 : Word).toNat = 0 := rfl
  rw [← BitVec.toNat_inj, ← BitVec.toNat_inj, BitVec.toNat_sub, hzero]
  omega

/-- A difference is greater than the number it was taken from just if it has wrapped. -/
lemma lt_toNat_sub_iff (x y : Word) : y.toNat < (y - x).toNat ↔ y.toNat < x.toNat := by
  have hx := x.isLt
  have hy := y.isLt
  rw [BitVec.toNat_sub]
  omega

lemma toInt_bounds (w : Word) : -2 ^ 63 ≤ w.toInt ∧ w.toInt < 2 ^ 63 :=
  ⟨BitVec.le_toInt w, BitVec.toInt_lt⟩

/-- The difference of signed numbers wraps around at most once. -/
lemma toInt_sub_cases (x y : Word) :
    (y - x).toInt = y.toInt - x.toInt ∨ (y - x).toInt = y.toInt - x.toInt - 2 ^ 64 ∨
      (y - x).toInt = y.toInt - x.toInt + 2 ^ 64 := by
  have hx := toInt_bounds x
  have hy := toInt_bounds y
  rw [BitVec.toInt_sub, Int.bmod]
  split <;> omega

/-! ### Signs -/

/-- To continue a sign is to take the number modulo its width, around zero. -/
lemma extendSign_ofNat (width n : Nat) (h : n < 2 ^ 64) :
    extendSign width (BitVec.ofNat 64 n) = BitVec.ofInt 64 ((n : Int).bmod (2 ^ (8 * width))) := by
  rw [extendSign, BitVec.signExtend, BitVec.toInt_setWidth, BitVec.toNat_ofNat, Nat.mod_eq_of_lt h]

end LectureMachine.Word
