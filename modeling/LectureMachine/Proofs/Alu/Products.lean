import LectureMachine.Proofs.Alu.Results
import LectureMachine.Proofs.Instruction.Shape

/-!
# Products

Two signed words are multiplied in 128 bits, which are always enough. Carry and overflow are set if
the product is not an unsigned word, and no product clears them: after a row of multiplications they
tell whether this was so for any of the products.
-/

namespace LectureMachine

/-! ### Factors -/

/-- The product of the signed numbers is not an unsigned word. -/
def Word.ProductExceeds (x y : Word) : Prop :=
  x.toInt * y.toInt < 0 ∨ 2 ^ 64 ≤ x.toInt * y.toInt

instance (x y : Word) : Decidable (x.ProductExceeds y) :=
  inferInstanceAs (Decidable (_ ∨ _))

lemma Word.productExceeds_iff (x y : Word) :
    x.ProductExceeds y ↔ x.toInt * y.toInt / 2 ^ 64 ≠ 0 := by
  rw [ProductExceeds]
  omega

/-- Signed words have a product of less than 128 bits. -/
lemma Word.smulOverflow_signExtend (x y : Word) :
    BitVec.smulOverflow (x.signExtend 128) (y.signExtend 128) = false := by
  have hlow := BitVec.le_toInt_mul_toInt (x := x) (y := y)
  have hhigh := BitVec.toInt_mul_toInt_le (x := x) (y := y)
  have hx : (x.signExtend 128).toInt = x.toInt := BitVec.toInt_signExtend_of_le (by decide)
  have hy : (y.signExtend 128).toInt = y.toInt := BitVec.toInt_signExtend_of_le (by decide)
  rw [BitVec.smulOverflow, hx, hy, Bool.or_eq_false_iff, decide_eq_false_iff_not,
    decide_eq_false_iff_not]
  omega

/-- The flags after a product that is not an unsigned word. -/
def Flags.exceeded (flags : Flags) : Flags := { flags with carry := true, overflow := true }

/-- Carry and overflow are both set. -/
def Flags.IsExceeded (flags : Flags) : Prop := flags.carry = true ∧ flags.overflow = true

namespace Alu

/-! ### One multiplication -/

lemma yields_multiply (x y : Word) (r : Register) (alu : Alu) :
    Yields (multiply x y r) alu r (BitVec.ofInt 64 (x.toInt * y.toInt))
      (if x.ProductExceeds y then alu.flags.exceeded else alu.flags) := by
  have hflags : (Results.product x y r).flags alu.flags =
      if x.ProductExceeds y then alu.flags.exceeded else alu.flags := by
    simp only [Word.productExceeds_iff, ite_not]
    rfl
  rw [← hflags]
  exact Results.yields (runs_multiply x y r) (state_multiply x y r alu) rfl

/-! ### Many multiplications -/

/-- One multiplication after another: two factors each, and a register for the product. -/
def multiplyAll : List (Word × Word × Register) → Transition Alu Unit
  | [] => pure ()
  | (x, y, r) :: products => do
    multiply x y r
    multiplyAll products

lemma multiplyAll_cons (x y : Word) (r : Register) (products : List (Word × Word × Register))
    (alu : Alu) :
    multiplyAll ((x, y, r) :: products) alu =
      (multiplyAll products (multiply x y r alu).state).after (multiply x y r alu).activity := by
  have hok := (yields_multiply x y r alu).succeeds
  exact Transition.bind_of_ok (by rw [← hok]) _

lemma result_multiplyAll (products : List (Word × Word × Register)) (alu : Alu) :
    (multiplyAll products alu).result = .ok () := by
  induction products generalizing alu with
  | nil => rfl
  | cons p products ih =>
    rcases p with ⟨x, y, r⟩
    rw [multiplyAll_cons, Outcome.result_after, ih]

/-- One product that is not an unsigned word is enough, wherever it is in the row. -/
lemma flags_multiplyAll (products : List (Word × Word × Register)) (alu : Alu) :
    (multiplyAll products alu).state.flags =
      if ∃ p ∈ products, p.1.ProductExceeds p.2.1 then alu.flags.exceeded else alu.flags := by
  induction products generalizing alu with
  | nil => simp [multiplyAll]
  | cons p products ih =>
    rcases p with ⟨x, y, r⟩
    rw [multiplyAll_cons, Outcome.state_after, ih, (yields_multiply x y r alu).flags]
    by_cases hfirst : x.ProductExceeds y
    · simp [hfirst, Flags.exceeded]
    · simp [hfirst]

/-- No later product takes back what an earlier one has set. -/
lemma isExceeded_append {earlier : List (Word × Word × Register)} {alu : Alu}
    (h : (multiplyAll earlier alu).state.flags.IsExceeded) (later : List (Word × Word × Register)) :
    (multiplyAll (earlier ++ later) alu).state.flags.IsExceeded := by
  rw [flags_multiplyAll] at h ⊢
  by_cases hany : ∃ p ∈ earlier ++ later, p.1.ProductExceeds p.2.1
  · rw [if_pos hany]
    exact ⟨rfl, rfl⟩
  · have hnone : ¬ ∃ p ∈ earlier, p.1.ProductExceeds p.2.1 := fun ⟨p, hp, hexceeds⟩ =>
      hany ⟨p, List.mem_append_left later hp, hexceeds⟩
    rw [if_neg hnone] at h
    rwa [if_neg hany]

/-- A product is kept modulo 2 ^ 64, and 128 bits always hold it before. If it is negative, or too
great for an unsigned word, then carry and overflow are set; otherwise no flag is touched. Whatever
else is multiplied afterwards, what is set stays set. -/
theorem multiply_exact (alu : Alu) :
    (∀ x y : Word,
        BitVec.smulOverflow (x.signExtend 128) (y.signExtend 128) = false ∧
        ∃ z : Word, z.toInt = (x.toInt * y.toInt).bmod (2 ^ 64) ∧
          ∀ r, Yields (multiply x y r) alu r z
            (if x.ProductExceeds y then alu.flags.exceeded else alu.flags)) ∧
      ∀ earlier : List (Word × Word × Register),
        (multiplyAll earlier alu).result = .ok () ∧
        (multiplyAll earlier alu).state.flags =
          (if ∃ p ∈ earlier, p.1.ProductExceeds p.2.1 then alu.flags.exceeded else alu.flags) ∧
        ((multiplyAll earlier alu).state.flags.IsExceeded →
          ∀ later, (multiplyAll (earlier ++ later) alu).state.flags.IsExceeded) :=
  ⟨fun x y => ⟨Word.smulOverflow_signExtend x y, _, BitVec.toInt_ofInt _,
      fun r => yields_multiply x y r alu⟩,
    fun earlier => ⟨result_multiplyAll earlier alu, flags_multiplyAll earlier alu,
      isExceeded_append⟩⟩

end Alu

end LectureMachine
