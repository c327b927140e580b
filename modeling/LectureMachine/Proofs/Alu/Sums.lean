import LectureMachine.Proofs.Alu.Results
import LectureMachine.Proofs.Instruction.Shape

/-!
# Sums and differences

A sum or a difference of two words may not fit into a word. The word that is kept and the flags
together still tell the exact result, of unsigned and of signed numbers alike: the carry is what was
lost of the natural number, and sign and overflow give away the sign of the integer.
-/

namespace LectureMachine

/-- The flags describe the integer `n`, of which the word `z` was kept. -/
structure Flags.Describe (flags : Flags) (z : Word) (n : Int) : Prop where
  zero : flags.zero = true ↔ z = 0
  sign : flags.sign = true ↔ z.toInt < 0
  overflow : flags.overflow = true ↔ ¬ (-2 ^ 63 ≤ n ∧ n ≤ 2 ^ 63 - 1)
  negative : flags.sign ≠ flags.overflow ↔ n < 0

/-- The word that is kept of an integer has its sign just if the integer fits, as long as it cannot
wrap around twice. -/
lemma Flags.describe_of_kept {flags : Flags} {z : Word} {n : Int} (hkept : BitVec.ofInt 64 n = z)
    (hlow : -2 ^ 64 ≤ n) (hhigh : n < 2 ^ 64) (hzero : flags.zero = true ↔ z = 0)
    (hsign : flags.sign = true ↔ z.toInt < 0)
    (hoverflow : flags.overflow = true ↔ ¬ (-2 ^ 63 ≤ n ∧ n ≤ 2 ^ 63 - 1)) :
    flags.Describe z n := by
  have hwraps : z.toInt < 0 ↔ -2 ^ 63 ≤ n ∧ n < 0 ∨ 2 ^ 63 ≤ n := by
    rw [← hkept, BitVec.toInt_ofInt, Int.bmod]
    split <;> omega
  refine ⟨hzero, hsign, hoverflow, ?_⟩
  rw [ne_eq, Bool.eq_iff_iff, hsign, hoverflow, hwraps]
  omega

namespace Alu.Results

variable (x y : Word) (r : Register) (flags : Flags)

/-! ### Sums -/

lemma overflow_sum : ((sum x y r).flags flags).overflow = true ↔
    ¬ (-2 ^ 63 ≤ x.toInt + y.toInt ∧ x.toInt + y.toInt ≤ 2 ^ 63 - 1) := by
  have hoverflow : ((sum x y r).flags flags).overflow = BitVec.saddOverflow x y :=
    (BitVec.saddOverflow_eq x y).symm
  rw [hoverflow, BitVec.saddOverflow, Bool.or_eq_true, decide_eq_true_iff, decide_eq_true_iff]
  omega

/-- The carry of a sum is the digit that was lost. -/
lemma carry_sum :
    x.toNat + y.toNat = (x + y).toNat + 2 ^ 64 * ((sum x y r).flags flags).carry.toNat := by
  have hx := x.isLt
  have hy := y.isLt
  have hcarry : ((sum x y r).flags flags).carry.toNat =
      if 2 ^ 64 ≤ x.toNat + y.toNat then 1 else 0 := Bool.cond_decide _ 1 0
  rw [hcarry, BitVec.toNat_add]
  split <;> omega

lemma describe_sum :
    ((sum x y r).flags flags).Describe (x + y) (x.toInt + y.toInt) := by
  have hkept : BitVec.ofInt 64 (x.toInt + y.toInt) = x + y := by
    rw [BitVec.ofInt_add, BitVec.ofInt_toInt, BitVec.ofInt_toInt]
  have hx := Word.toInt_bounds x
  have hy := Word.toInt_bounds y
  refine Flags.describe_of_kept hkept (by omega) (by omega) beq_iff_eq ?_ (overflow_sum x y r flags)
  rw [← decide_eq_true_iff (p := (x + y).toInt < 0), ← BitVec.msb_eq_toInt]
  rfl

/-! ### Differences -/

lemma overflow_difference : ((difference x y r).flags flags).overflow = true ↔
    ¬ (-2 ^ 63 ≤ y.toInt - x.toInt ∧ y.toInt - x.toInt ≤ 2 ^ 63 - 1) := by
  have hx := Word.toInt_bounds x
  have hy := Word.toInt_bounds y
  have hz := Word.toInt_bounds (y - x)
  have hwrap := Word.toInt_sub_cases x y
  rw [difference, decide_eq_true_iff]
  omega

/-- The carry of a difference is the digit that was borrowed. -/
lemma borrow_difference : (y.toNat : Int) - x.toNat =
    (y - x).toNat - 2 ^ 64 * (((difference x y r).flags flags).carry.toNat : Int) := by
  have hx := x.isLt
  have hy := y.isLt
  have hcarry : ((difference x y r).flags flags).carry.toNat =
      if y.toNat < (y - x).toNat then 1 else 0 := Bool.cond_decide _ 1 0
  simp only [hcarry, Word.lt_toNat_sub_iff]
  rw [BitVec.toNat_sub]
  split <;> omega

lemma describe_difference :
    ((difference x y r).flags flags).Describe (y - x) (y.toInt - x.toInt) := by
  have hkept : BitVec.ofInt 64 (y.toInt - x.toInt) = y - x := by
    rw [Word.ofInt_sub, BitVec.ofInt_toInt, BitVec.ofInt_toInt]
  have hx := Word.toInt_bounds x
  have hy := Word.toInt_bounds y
  exact Flags.describe_of_kept hkept (by omega) (by omega) beq_iff_eq decide_eq_true_iff
    (overflow_difference x y r flags)

end Alu.Results

namespace Alu

open Results

/-- A sum and a difference are kept modulo 2 ^ 64, and the flags make up for the rest. They are the
same for every register that the result may go to, register 0 included. -/
theorem add_subtract_exact (x y : Word) (alu : Alu) :
    (∃ z flags,
        x.toNat + y.toNat = z.toNat + 2 ^ 64 * flags.carry.toNat ∧
        flags.Describe z (x.toInt + y.toInt) ∧
        ∀ r, Yields (add x y r) alu r z flags) ∧
      ∃ z flags,
        (y.toNat : Int) - x.toNat = z.toNat - 2 ^ 64 * (flags.carry.toNat : Int) ∧
        flags.Describe z (y.toInt - x.toInt) ∧
        ∀ r, Yields (subtract x y r) alu r z flags := by
  have hadd : ∀ r, Yields (add x y r) alu r (x + y) ((sum x y r).flags alu.flags) := fun r =>
    Results.yields (runs_add x y r) (state_add x y r alu) rfl
  have hsubtract : ∀ r,
      Yields (subtract x y r) alu r (y - x) ((difference x y r).flags alu.flags) := fun r =>
    Results.yields (runs_subtract x y r) (state_subtract x y r alu) rfl
  exact ⟨⟨_, _, carry_sum x y 0 alu.flags, describe_sum x y 0 alu.flags, hadd⟩,
    ⟨_, _, borrow_difference x y 0 alu.flags, describe_difference x y 0 alu.flags, hsubtract⟩⟩

end Alu

end LectureMachine
