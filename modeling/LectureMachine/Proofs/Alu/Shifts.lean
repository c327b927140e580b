import LectureMachine.Proofs.Alu.Results
import LectureMachine.Proofs.Instruction.Shape

/-!
# Shifts

The amount of a shift is any word. The value moves by the amount modulo 64, which makes it a product
or a quotient with a power of two; the carry goes by the whole amount. To shift to the right and
back again is to clear the bits that were lost on the way.
-/

namespace LectureMachine

/-! ### Values -/

namespace Word

/-- The quotient of a signed number is rounded down. -/
lemma toInt_sshiftRight (v : Word) (k : Nat) :
    (v.sshiftRight k).toInt = v.toInt.fdiv (2 ^ k) := by
  have hpos : (0 : Int) ≤ 2 ^ k := Int.pow_nonneg (by decide)
  rw [BitVec.toInt_sshiftRight, Int.shiftRight_eq_div_pow, Int.fdiv_eq_ediv_of_nonneg _ hpos]
  rfl

lemma getLsbD_shiftBack (v : Word) (k i : Nat) :
    ((v >>> k) <<< k).getLsbD i = (decide (k ≤ i) && v.getLsbD i) := by
  by_cases hlow : k ≤ i
  · have hback : k + (i - k) = i := by omega
    by_cases hi : i < 64
    · simp [hlow, hi, hback]
    · simp [hi, BitVec.getLsbD_of_ge v i (by omega)]
  · simp [hlow, Nat.lt_of_not_le hlow]

end Word

namespace Alu

/-! ### The carry -/

/-- The carry after a shift to the left: the digit of the exact product that comes after the 64
digits of a word, or the last digit of the value if nothing is shifted. Amounts from 64 on leave it
as it is. -/
def shiftedOut (amount v : Word) (carry : Bool) : Bool :=
  if amount.toNat = 0 then v.toNat.testBit 0
  else if amount.toNat ≤ 63 then (v.toNat * 2 ^ amount.toNat).testBit 64
  else carry

lemma Results.flags_shiftedLeft (amount v : Word) (r : Register) (flags : Flags) :
    (shiftedLeft amount v r).flags flags =
      { flags with carry := shiftedOut amount v flags.carry } := by
  have hbit : ∀ s, (v >>> s).getLsbD 0 = v.toNat.testBit s := fun s => by
    rw [BitVec.getLsbD_ushiftRight, BitVec.testBit_toNat, Nat.add_zero]
  simp only [shiftedLeft, shiftedOut, hbit]
  by_cases hzero : amount.toNat = 0
  · -- The carry looks for the bit `64 - 0`, and the amount of that shift wraps around as well.
    rw [hzero]
    rfl
  by_cases hle : amount.toNat ≤ 63
  · have hlt : amount.toNat < 64 := by omega
    have hmod : (64 - amount.toNat) % 64 = 64 - amount.toNat := Nat.mod_eq_of_lt (by omega)
    rw [if_pos hlt, if_neg hzero, if_pos hle, hmod, Nat.testBit_mul_two_pow,
      decide_eq_true (Nat.le_of_lt hlt), Bool.true_and]
  · have hge : ¬ amount.toNat < 64 := by omega
    rw [if_neg hge, if_neg hzero, if_neg hle]

/-! ### The shifts -/

/-- Shifts to the right, and what comes out of it to the left by the same amount. -/
def shiftBack (amount v : Word) (r r' : Register) : Transition Alu Unit := do
  shiftRight amount v r
  shiftLeft amount (← read r) r'

section Shifts

variable (amount v : Word) (r : Register) (alu : Alu)

lemma yields_shiftLeft :
    Yields (shiftLeft amount v r) alu r (v <<< (amount.toNat % 64))
      { alu.flags with carry := shiftedOut amount v alu.flags.carry } := by
  rw [← Results.flags_shiftedLeft amount v r]
  exact Results.yields (runs_shiftLeft amount v r) (state_shiftLeft amount v r alu) rfl

lemma yields_shiftRight :
    Yields (shiftRight amount v r) alu r (v >>> (amount.toNat % 64)) alu.flags :=
  Results.yields (runs_shiftRight amount v r) (state_shiftRight amount v r alu) rfl

lemma yields_shiftRightSigned :
    Yields (shiftRightSigned amount v r) alu r (v.sshiftRight (amount.toNat % 64)) alu.flags :=
  Results.yields (runs_shiftRightSigned amount v r) (state_shiftRightSigned amount v r alu) rfl

/-- The register in between gives back what was put into it, unless it is register 0. -/
lemma peek_shiftBack {r r' : Register} (hr : r ≠ 0) (hr' : r' ≠ 0) :
    (shiftBack amount v r r' alu).state.peek r' =
      (v >>> (amount.toNat % 64)) <<< (amount.toNat % 64) := by
  have hright : (shiftRight amount v r alu).state.peek r = v >>> (amount.toNat % 64) := by
    rw [(yields_shiftRight amount v r alu).register r, if_pos rfl, if_neg hr]
  have hleft := (yields_shiftLeft amount ((shiftRight amount v r alu).state.peek r) r'
    (shiftRight amount v r alu).state).register r'
  rw [if_pos rfl, if_neg hr'] at hleft
  rw [← hright]
  exact hleft

end Shifts

/-- Shifts multiply and divide by the power of two that the amount modulo 64 stands for. Only the
shift to the left changes a flag, the carry. To shift back what was shifted to the right leaves the
value with the low bits cleared. -/
theorem shifts_exact (amount v : Word) (alu : Alu) :
    (∃ z : Word, z.toNat = v.toNat * 2 ^ (amount.toNat % 64) % 2 ^ 64 ∧
        ∀ r, Yields (shiftLeft amount v r) alu r z
          { alu.flags with carry := shiftedOut amount v alu.flags.carry }) ∧
      (∃ z : Word, z.toNat = v.toNat / 2 ^ (amount.toNat % 64) ∧
        ∀ r, Yields (shiftRight amount v r) alu r z alu.flags) ∧
      (∃ z : Word, z.toInt = v.toInt.fdiv (2 ^ (amount.toNat % 64)) ∧
        ∀ r, Yields (shiftRightSigned amount v r) alu r z alu.flags) ∧
      ∀ r r' : Register, r ≠ 0 → r' ≠ 0 → ∀ i,
        ((shiftBack amount v r r' alu).state.peek r').getLsbD i =
          (decide (amount.toNat % 64 ≤ i) && v.getLsbD i) := by
  refine ⟨⟨_, ?_, fun r => yields_shiftLeft amount v r alu⟩,
    ⟨_, ?_, fun r => yields_shiftRight amount v r alu⟩,
    ⟨_, Word.toInt_sshiftRight v _, fun r => yields_shiftRightSigned amount v r alu⟩,
    fun r r' hr hr' i => ?_⟩
  · rw [BitVec.toNat_shiftLeft, Nat.shiftLeft_eq]
  · rw [BitVec.toNat_ushiftRight, Nat.shiftRight_eq_div_pow]
  · rw [peek_shiftBack amount v alu hr hr', Word.getLsbD_shiftBack]

end Alu

end LectureMachine
