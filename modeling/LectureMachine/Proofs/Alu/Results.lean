import LectureMachine.Proofs.Alu.Arithmetic
import LectureMachine.Proofs.Transition.Frame
import LectureMachine.Alu

/-!
# Results

An operation of the arithmetic unit leaves values in some registers, and it may change the flags.
Here the results are functions of the operands alone, which are told apart from the registers: no
operation can find in a register what it has put there itself. Products and quotients are those of
the numbers that the words stand for.
-/

namespace LectureMachine

open Transition

lemma Register.val_add_ofNat {r : Register} {n : Nat} (h : r.val + n < 256) :
    (r + Fin.ofNat 256 n).val = r.val + n := by
  rw [Fin.val_add, Fin.val_ofNat]
  omega

/-- There is a register after `r` as long as the last one is not passed. -/
lemma Register.after?_of_lt {r : Register} {n : Nat} (h : r.val + n < 256) :
    r.after? n = some (r + Fin.ofNat 256 n) := by
  rw [after?, dif_pos h, Option.some.injEq]
  exact Fin.ext (val_add_ofNat h).symm

lemma Register.after?_of_ge {r : Register} {n : Nat} (h : 256 ≤ r.val + n) :
    r.after? n = none := by
  rw [after?, dif_neg (by omega)]

namespace Alu

/-- Values for registers, and a change of the flags. -/
structure Results where
  /-- The registers that are written, with their values. The one that is written last is first. -/
  writes : List (Register × Word) := []
  flags : Flags → Flags := id

namespace Results

/-! ### The results of the operations -/

/-- A value, about which the flags say nothing. -/
def single (v : Word) (r : Register) : Results := { writes := [(r, v)] }

/-- A value, and whether it is zero. -/
def loaded (v : Word) (r : Register) : Results :=
  { writes := [(r, v)], flags := fun f => { f with zero := v == 0 } }

/-- The sum. It carries if it does not fit as an unsigned number; it overflows if both numbers have
a sign that the sum has not. -/
def sum (x y : Word) (r : Register) : Results where
  writes := [(r, x + y)]
  flags _ :=
    { zero := x + y == 0
      carry := decide (2 ^ 64 ≤ x.toNat + y.toNat)
      overflow := x.msb == y.msb && (x + y).msb != x.msb
      sign := (x + y).msb }

/-- The difference `y - x`. It carries if it is greater than `y`; it overflows if the signs of the
numbers differ and it has the sign of `x`. -/
def difference (x y : Word) (r : Register) : Results where
  writes := [(r, y - x)]
  flags _ :=
    { zero := y - x == 0
      carry := decide (y.toNat < (y - x).toNat)
      overflow := decide (0 ≤ x.toInt ∧ y.toInt < 0 ∧ 0 ≤ (y - x).toInt ∨
        x.toInt < 0 ∧ 0 ≤ y.toInt ∧ (y - x).toInt < 0)
      sign := decide ((y - x).toInt < 0) }

/-- A value moved to the left by the amount modulo 64. The carry is bit 0 of what is moved to the
right by the rest of the 64 bits, unless the amount is 64 or more. -/
def shiftedLeft (amount v : Word) (r : Register) : Results where
  writes := [(r, v <<< (amount.toNat % 64))]
  flags f :=
    if amount.toNat < 64 then
      { f with carry := (v >>> ((64 - amount.toNat) % 64)).getLsbD 0 }
    else f

/-- The low word of the signed product. Carry and overflow are set if the high word is not zero. -/
def product (x y : Word) (r : Register) : Results where
  writes := [(r, BitVec.ofInt 64 (x.toInt * y.toInt))]
  flags f :=
    if x.toInt * y.toInt / 2 ^ 64 = 0 then f else { f with carry := true, overflow := true }

/-- The quotient of a number of two words, low word and high word, and the remainder. -/
def wideQuotient (divisor high low : Word) (r : Register) : Results where
  writes :=
    let n := high.toNat * 2 ^ 64 + low.toNat
    [ (r + 2, BitVec.ofNat 64 (n % divisor.toNat)),
      (r + 1, BitVec.ofNat 64 (n / divisor.toNat / 2 ^ 64)),
      (r, BitVec.ofNat 64 (n / divisor.toNat)) ]

/-- The quotient of signed numbers, rounded toward zero, and the remainder. -/
def signedQuotient (divisor dividend : Word) (r : Register) : Results where
  writes :=
    let quotient := dividend.toInt.tdiv divisor.toInt
    [ (r + 1, BitVec.ofInt 64 (dividend.toInt - divisor.toInt * quotient)),
      (r, BitVec.ofInt 64 quotient) ]

/-! ### Carrying them out -/

/-- The unit with the results in its registers and flags. -/
def carriedOut (results : Results) (alu : Alu) : Alu where
  registers := results.writes.foldr
    (fun write registers => registers.set write.1 (if write.1 = 0 then 0 else write.2))
    alu.registers
  flags := results.flags alu.flags

/-- What a register then holds. Register 0 takes nothing but zero. -/
def value (results : Results) (alu : Alu) (r : Register) : Word :=
  match results.writes.lookup r with
  | some v => if r = 0 then 0 else v
  | none => alu.peek r

lemma peek_carriedOut (results : Results) (alu : Alu) (r : Register) :
    (results.carriedOut alu).peek r = results.value alu r := by
  rcases results with ⟨writes, flags⟩
  simp only [value, peek]
  induction writes with
  | nil => rfl
  | cons write writes ih =>
    rcases write with ⟨r', v⟩
    by_cases h : r = r'
    · subst h
      simp [carriedOut]
    · have hval : r'.val ≠ r.val := fun hval => h (Fin.ext hval.symm)
      simpa [carriedOut, List.lookup_cons, beq_false_of_ne h, Vector.getElem_set, hval] using ih

@[simp] lemma value_nil (flags : Flags → Flags) (alu : Alu) (r : Register) :
    (Results.mk [] flags).value alu r = alu.peek r := rfl

/-- A register holds what was written to it last. -/
lemma value_cons (r : Register) (v : Word) (writes : List (Register × Word))
    (flags : Flags → Flags) (alu : Alu) (r' : Register) :
    (Results.mk ((r, v) :: writes) flags).value alu r' =
      if r' = r then (if r' = 0 then 0 else v) else (Results.mk writes flags).value alu r' := by
  by_cases hr : r' = r
  · simp [value, hr]
  · simp [value, List.lookup_cons, beq_false_of_ne hr, hr]

/-- If one register is written then the others stay as they are. -/
lemma value_of_writes_eq {results : Results} {r : Register} {v : Word}
    (h : results.writes = [(r, v)]) (alu : Alu) (r' : Register) :
    results.value alu r' = if r' = r then (if r' = 0 then 0 else v) else alu.peek r' := by
  rcases results with ⟨writes, flags⟩
  obtain rfl : writes = [(r, v)] := h
  rw [value_cons, value_nil]

/-- A register that is not written stays as it is. -/
lemma value_of_notMem {results : Results} {r : Register} (h : r ∉ results.writes.map (·.1))
    (alu : Alu) : results.value alu r = alu.peek r := by
  have hnone : results.writes.lookup r = none := by
    rw [List.lookup_eq_none_iff]
    intro write hwrite
    exact bne_iff_ne.mpr fun hr => h (List.mem_map.mpr ⟨write, hwrite, hr.symm⟩)
  rw [value, hnone]

end Results

/-! ### What the operations do -/

lemma state_write (r : Register) (v : Word) (alu : Alu) :
    (write r v alu).state = (Results.single v r).carriedOut alu := rfl

lemma state_add (x y : Word) (r : Register) (alu : Alu) :
    (add x y r alu).state = (Results.sum x y r).carriedOut alu := by
  have hoverflow : BitVec.saddOverflow x y = (x.msb == y.msb && (x + y).msb != x.msb) :=
    BitVec.saddOverflow_eq x y
  simp only [Results.sum]
  rw [← hoverflow]
  rfl

lemma state_subtract (x y : Word) (r : Register) (alu : Alu) :
    (subtract x y r alu).state = (Results.difference x y r).carriedOut alu := by
  have hoverflow : ((!x.msb && y.msb && !(y - x).msb) || (x.msb && !y.msb && (y - x).msb))
      = decide (0 ≤ x.toInt ∧ y.toInt < 0 ∧ 0 ≤ (y - x).toInt ∨
        x.toInt < 0 ∧ 0 ≤ y.toInt ∧ (y - x).toInt < 0) := by
    rw [Bool.eq_iff_iff]
    simp [BitVec.msb_eq_toInt, and_assoc]
  simp only [Results.difference]
  rw [← hoverflow, ← BitVec.msb_eq_toInt]
  rfl

lemma state_shiftLeft (amount v : Word) (r : Register) (alu : Alu) :
    (shiftLeft amount v r alu).state = (Results.shiftedLeft amount v r).carriedOut alu := by
  have hcarry : (v >>> ((64 - amount.toNat) % 64)).getLsbD 0
      = v.getLsbD ((64 - amount.toNat) % 64) := by
    rw [BitVec.getLsbD_ushiftRight, Nat.add_zero]
  simp only [Results.shiftedLeft, hcarry]
  by_cases h : amount.toNat < 64 <;> simp [shiftLeft, bind_apply, Results.carriedOut, h]

lemma state_shiftRight (amount v : Word) (r : Register) (alu : Alu) :
    (shiftRight amount v r alu).state
      = (Results.single (v >>> (amount.toNat % 64)) r).carriedOut alu := rfl

lemma state_shiftRightSigned (amount v : Word) (r : Register) (alu : Alu) :
    (shiftRightSigned amount v r alu).state
      = (Results.single (v.sshiftRight (amount.toNat % 64)) r).carriedOut alu := rfl

lemma state_multiply (x y : Word) (r : Register) (alu : Alu) :
    (multiply x y r alu).state = (Results.product x y r).carriedOut alu := by
  have hlow : (x.signExtend 128 * y.signExtend 128).extractLsb' 0 64
      = BitVec.ofInt 64 (x.toInt * y.toInt) := by
    rw [Word.signExtend_mul_signExtend, Word.low_ofInt]
  have hhigh := Word.high_product_eq_zero_iff x y
  by_cases h : x.toInt * y.toInt / 2 ^ 64 = 0
  · simp only [multiply, Results.product, hlow, hhigh.mpr h, h]
    rfl
  · simp only [multiply, Results.product, hlow, if_pos (mt hhigh.mp h), if_neg h]
    rfl

/-! ### Single words -/

/-- The operation succeeds and leaves these flags. The word has come to the register `r`, unless
that is register 0, which takes nothing but zero; all other registers stay. -/
structure Yields (t : Transition Alu Unit) (alu : Alu) (r : Register) (v : Word) (flags : Flags) :
    Prop where
  succeeds : (t alu).result = .ok ()
  register : ∀ r', (t alu).state.peek r' =
    if r' = r then (if r' = 0 then 0 else v) else alu.peek r'
  flags : (t alu).state.flags = flags

lemma Results.yields {p : Activity → Prop} {t : Transition Alu Unit} {alu : Alu}
    {results : Results} {r : Register} {v : Word} (hruns : Runs p t)
    (hstate : (t alu).state = results.carriedOut alu) (hwrites : results.writes = [(r, v)]) :
    Yields t alu r v (results.flags alu.flags) := by
  obtain ⟨_, hok⟩ := hruns.succeeds alu
  refine ⟨hok, fun r' => ?_, by rw [hstate]; rfl⟩
  rw [hstate, peek_carriedOut, value_of_writes_eq hwrites]

/-! ### Divisions -/

lemma following_of_lt {r : Register} {n : Nat} (h : r.val + n < 256) :
    following r n = pure (r + Fin.ofNat 256 n) := by
  rw [following, Register.after?_of_lt h]

lemma following_of_eq {r : Register} {n : Nat} (h : r.val + n = 256) :
    following r n = fault (.registerOutOfRange 256) := by
  rw [following, Register.after?_of_ge (by omega), h]

/-- The registers are looked for before the divisor is looked at. The one that is missed first is
always the one after the last. -/
lemma divideUnsigned_of_out_of_range {dividend r : Register}
    (h : dividend.val = 255 ∨ 254 ≤ r.val) (divisor : Word) (alu : Alu) :
    (divideUnsigned divisor dividend r alu).result = .error (.registerOutOfRange 256) := by
  by_cases hdividend : dividend.val = 255
  · have hmissed : dividend.val + 1 = 256 := by omega
    simp [divideUnsigned, bind_apply, following_of_eq hmissed]
  have hhigh : dividend.val + 1 < 256 := by omega
  by_cases hlast : r.val = 255
  · have hmissed : r.val + 1 = 256 := by omega
    simp [divideUnsigned, bind_apply, following_of_lt hhigh, following_of_eq hmissed]
  · have hnext : r.val + 1 < 256 := by omega
    have hmissed : r.val + 2 = 256 := by omega
    simp [divideUnsigned, bind_apply, following_of_lt hhigh, following_of_lt hnext,
      following_of_eq hmissed]

section Wide

variable {dividend r : Register} (h : ¬ (dividend.val = 255 ∨ 254 ≤ r.val))

include h

/-- If no register is missed, all that remains is to divide. -/
lemma divideUnsigned_of_in_range (divisor : Word) :
    divideUnsigned divisor dividend r = (do
      let low ← read dividend
      let high ← read (dividend + 1)
      if divisor = 0 then fault .divisionByZero
      let n := high ++ low
      let d := divisor.setWidth 128
      write r ((n / d).extractLsb' 0 64)
      write (r + 1) ((n / d).extractLsb' 64 64)
      write (r + 2) ((n % d).extractLsb' 0 64)) := by
  have hhigh : dividend.val + 1 < 256 := by omega
  have hnext : r.val + 1 < 256 := by omega
  have hlast : r.val + 2 < 256 := by omega
  simp only [divideUnsigned, following_of_lt hhigh, following_of_lt hnext, following_of_lt hlast,
    pure_bind]
  rfl

lemma divideUnsigned_of_zero (alu : Alu) :
    (divideUnsigned 0 dividend r alu).result = .error .divisionByZero := by
  rw [divideUnsigned_of_in_range h]
  rfl

lemma divideUnsigned_of_ne_zero {divisor : Word} (hdivisor : divisor ≠ 0) (alu : Alu) :
    (divideUnsigned divisor dividend r alu).result = .ok () ∧
      (divideUnsigned divisor dividend r alu).state =
        (Results.wideQuotient divisor (alu.peek (dividend + 1)) (alu.peek dividend) r).carriedOut
          alu := by
  rw [divideUnsigned_of_in_range h]
  simp only [if_neg hdivisor, Word.low_div, Word.high_div, Word.low_mod, Word.toNat_append,
    Word.toNat_setWidth_double]
  exact ⟨rfl, rfl⟩

end Wide

lemma divideSigned_of_out_of_range {r : Register} (h : r.val = 255) (divisor dividend : Word)
    (alu : Alu) :
    (divideSigned divisor dividend r alu).result = .error (.registerOutOfRange 256) := by
  have hmissed : r.val + 1 = 256 := by omega
  simp [divideSigned, bind_apply, following_of_eq hmissed]

lemma divideSigned_of_zero {r : Register} (h : r.val ≠ 255) (dividend : Word) (alu : Alu) :
    (divideSigned 0 dividend r alu).result = .error .divisionByZero := by
  have hnext : r.val + 1 < 256 := by omega
  simp only [divideSigned, following_of_lt hnext]
  rfl

lemma divideSigned_of_ne_zero {divisor : Word} {r : Register} (h : r.val ≠ 255)
    (hdivisor : divisor ≠ 0) (dividend : Word) (alu : Alu) :
    (divideSigned divisor dividend r alu).result = .ok () ∧
      (divideSigned divisor dividend r alu).state
        = (Results.signedQuotient divisor dividend r).carriedOut alu := by
  have hnext : r.val + 1 < 256 := by omega
  have hremainder : dividend - divisor * BitVec.ofInt 64 (dividend.toInt.tdiv divisor.toInt)
      = BitVec.ofInt 64 (dividend.toInt - divisor.toInt * dividend.toInt.tdiv divisor.toInt) := by
    rw [Word.ofInt_sub, BitVec.ofInt_mul, BitVec.ofInt_toInt, BitVec.ofInt_toInt]
  simp only [divideSigned, following_of_lt hnext, if_neg hdivisor, Word.sdiv_eq_ofInt, hremainder]
  exact ⟨rfl, rfl⟩

end Alu

end LectureMachine
