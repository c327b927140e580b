import Mathlib.Order.Basic
import LectureMachine.Proofs.Alu.Results
import LectureMachine.Proofs.Instruction.Shape

/-!
# Divisions

A wide division takes its dividend from two registers that follow one another and leaves its results
in three. The registers may overlap in any way: the dividend is the one that was there before. What
is left is exact, as an equation between natural numbers.

A signed division leaves two results. They are exact as an equation between integers, except for the
one quotient that no word can hold.
-/

namespace LectureMachine.Alu

/-! ### Unsigned numbers of two words -/

/-- The number in a register and the one after it, which has the high word. -/
def wide (alu : Alu) (d : Register) : Nat :=
  (alu.peek d).toNat + 2 ^ 64 * (alu.peek (d + 1)).toNat

lemma wide_lt (alu : Alu) (d : Register) : alu.wide d < 2 ^ 128 := by
  have hlow := (alu.peek d).isLt
  have hhigh := (alu.peek (d + 1)).isLt
  rw [wide]
  omega

/-- The quotient of a wide division, low word and high word, and the remainder have come to the
register `r` and the two after it. Register 0 takes nothing but zero, and all else stays. -/
structure WidelyDivided (divisor : Word) (d r : Register) (before after : Alu) (q₀ q₁ rem : Word) :
    Prop where
  exact : before.wide d = (q₀.toNat + 2 ^ 64 * q₁.toNat) * divisor.toNat + rem.toNat
  less : rem.toNat < divisor.toNat
  register : ∀ r', after.peek r' =
    if r'.val = r.val then (if r' = 0 then 0 else q₀)
    else if r'.val = r.val + 1 then q₁
    else if r'.val = r.val + 2 then rem
    else before.peek r'
  flags : after.flags = before.flags

/-- As long as the last register is not passed, the results go to three different ones, of which
only the first can be register 0. -/
lemma value_wideQuotient (divisor high low : Word) {r : Register} (h : r.val + 2 ≤ 255) (alu : Alu)
    (r' : Register) :
    (Results.wideQuotient divisor high low r).value alu r' =
      if r'.val = r.val then
        (if r' = 0 then 0
        else BitVec.ofNat 64 ((high.toNat * 2 ^ 64 + low.toNat) / divisor.toNat))
      else if r'.val = r.val + 1 then
        BitVec.ofNat 64 ((high.toNat * 2 ^ 64 + low.toNat) / divisor.toNat / 2 ^ 64)
      else if r'.val = r.val + 2 then
        BitVec.ofNat 64 ((high.toNat * 2 ^ 64 + low.toNat) % divisor.toNat)
      else alu.peek r' := by
  have hnext : (r + 1).val = r.val + 1 := Register.val_add_ofNat (n := 1) (by omega)
  have hlast : (r + 2).val = r.val + 2 := Register.val_add_ofNat (n := 2) (by omega)
  have hzero : r' = 0 ↔ r'.val = 0 := Fin.ext_iff
  simp only [Results.wideQuotient, Results.value_cons, Results.value_nil, Fin.ext_iff (b := r),
    Fin.ext_iff (b := r + 1), Fin.ext_iff (b := r + 2), hnext, hlast, hzero]
  by_cases h₀ : r'.val = r.val
  · simp [h₀]
  by_cases h₁ : r'.val = r.val + 1
  · simp [h₁]
  by_cases h₂ : r'.val = r.val + 2
  · simp [h₂]
  · simp [h₀, h₁, h₂]

/-- The words are those of the quotient and of the remainder. -/
lemma widelyDivided_carriedOut {divisor : Word} (hdivisor : divisor ≠ 0) (d : Register)
    {r : Register} (hr : r.val + 2 ≤ 255) (alu : Alu) :
    WidelyDivided divisor d r alu
      ((Results.wideQuotient divisor (alu.peek (d + 1)) (alu.peek d) r).carriedOut alu)
      (BitVec.ofNat 64 (alu.wide d / divisor.toNat))
      (BitVec.ofNat 64 (alu.wide d / divisor.toNat / 2 ^ 64))
      (BitVec.ofNat 64 (alu.wide d % divisor.toNat)) := by
  have hwide : (alu.peek (d + 1)).toNat * 2 ^ 64 + (alu.peek d).toNat = alu.wide d := by
    rw [wide]
    omega
  have hpos : 0 < divisor.toNat :=
    Nat.pos_of_ne_zero fun h => hdivisor (BitVec.eq_of_toNat_eq h)
  have hquotient : alu.wide d / divisor.toNat < 2 ^ 128 :=
    Nat.lt_of_le_of_lt (Nat.div_le_self _ _) (alu.wide_lt d)
  have hless : alu.wide d % divisor.toNat < divisor.toNat := Nat.mod_lt _ hpos
  have hrem : (BitVec.ofNat 64 (alu.wide d % divisor.toNat)).toNat
      = alu.wide d % divisor.toNat := by
    rw [BitVec.toNat_ofNat]
    exact Nat.mod_eq_of_lt (Nat.lt_trans hless divisor.isLt)
  refine ⟨?_, ?_, fun r' => ?_, rfl⟩
  · rw [Word.low_add_high hquotient, hrem, Nat.div_add_mod']
  · rwa [hrem]
  · rw [Results.peek_carriedOut, value_wideQuotient _ _ _ hr, hwide]

/-- A wide division succeeds just if there are registers for its dividend and for all of its results
and the divisor is not zero. A register that is missing is reported first, and it is always the one
after the last. If it succeeds then quotient and remainder are exact, however the registers overlap;
if it does not, nothing is changed. -/
theorem divideUnsigned_exact (divisor : Word) (d r : Register) (alu : Alu) :
    ((divideUnsigned divisor d r alu).result = .ok () ↔
        (d.val + 1 ≤ 255 ∧ r.val + 2 ≤ 255) ∧ divisor ≠ 0) ∧
      (¬ (d.val + 1 ≤ 255 ∧ r.val + 2 ≤ 255) →
        (divideUnsigned divisor d r alu).result = .error (.registerOutOfRange 256)) ∧
      (d.val + 1 ≤ 255 ∧ r.val + 2 ≤ 255 → divisor = 0 →
        (divideUnsigned divisor d r alu).result = .error .divisionByZero) ∧
      (∀ f, (divideUnsigned divisor d r alu).result = .error f →
        (divideUnsigned divisor d r alu).state = alu) ∧
      ((divideUnsigned divisor d r alu).result = .ok () →
        ∃ q₀ q₁ rem,
          WidelyDivided divisor d r alu (divideUnsigned divisor d r alu).state q₀ q₁ rem) := by
  have hrange : (d.val + 1 ≤ 255 ∧ r.val + 2 ≤ 255) ↔ ¬ (d.val = 255 ∨ 254 ≤ r.val) := by omega
  have hmissing : ¬ (d.val + 1 ≤ 255 ∧ r.val + 2 ≤ 255) →
      (divideUnsigned divisor d r alu).result = .error (.registerOutOfRange 256) := fun h =>
    divideUnsigned_of_out_of_range (not_not.mp (mt hrange.mpr h)) divisor alu
  have hzero : d.val + 1 ≤ 255 ∧ r.val + 2 ≤ 255 → divisor = 0 →
      (divideUnsigned divisor d r alu).result = .error .divisionByZero := by
    rintro h rfl
    exact divideUnsigned_of_zero (hrange.mp h) alu
  have hok : (divideUnsigned divisor d r alu).result = .ok () →
      (d.val + 1 ≤ 255 ∧ r.val + 2 ≤ 255) ∧ divisor ≠ 0 := by
    intro h
    have hin : d.val + 1 ≤ 255 ∧ r.val + 2 ≤ 255 := by
      by_contra hout
      cases h.symm.trans (hmissing hout)
    refine ⟨hin, fun hdivisor => ?_⟩
    cases h.symm.trans (hzero hin hdivisor)
  refine ⟨⟨hok, fun ⟨hin, hdivisor⟩ => ?_⟩, hmissing, hzero, ?_, fun h => ?_⟩
  · exact (divideUnsigned_of_ne_zero (hrange.mp hin) hdivisor alu).1
  · exact (checksFirst_divideUnsigned divisor d r).precise alu
  · obtain ⟨hin, hdivisor⟩ := hok h
    rw [(divideUnsigned_of_ne_zero (hrange.mp hin) hdivisor alu).2]
    exact ⟨_, _, _, widelyDivided_carriedOut hdivisor d hin.2 alu⟩

/-! ### Signed numbers -/

/-- The quotient of a signed division has come to the register `r` and the remainder to the one
after it. Register 0 takes nothing but zero, and all else stays. The quotient is rounded toward
zero, which leaves a remainder with the sign of the dividend. Of the least number divided by minus
one the least number is kept, and nothing remains. -/
structure Divided (divisor dividend : Word) (r : Register) (before after : Alu)
    (quotient rem : Word) : Prop where
  exact : ¬ (dividend.toInt = -2 ^ 63 ∧ divisor.toInt = -1) →
    dividend.toInt = quotient.toInt * divisor.toInt + rem.toInt
  less : rem.toInt.natAbs < divisor.toInt.natAbs
  sign : rem.toInt = 0 ∨ rem.toInt.sign = dividend.toInt.sign
  wraps : dividend.toInt = -2 ^ 63 → divisor.toInt = -1 →
    quotient.toInt = -2 ^ 63 ∧ rem.toInt = 0
  register : ∀ r', after.peek r' =
    if r'.val = r.val then (if r' = 0 then 0 else quotient)
    else if r'.val = r.val + 1 then rem
    else before.peek r'
  flags : after.flags = before.flags

lemma value_signedQuotient (divisor dividend : Word) {r : Register} (h : r.val + 1 ≤ 255)
    (alu : Alu) (r' : Register) :
    (Results.signedQuotient divisor dividend r).value alu r' =
      if r'.val = r.val then (if r' = 0 then 0 else dividend.sdiv divisor)
      else if r'.val = r.val + 1 then dividend.srem divisor
      else alu.peek r' := by
  have hnext : (r + 1).val = r.val + 1 := Register.val_add_ofNat (n := 1) (by omega)
  have hzero : r' = 0 ↔ r'.val = 0 := Fin.ext_iff
  simp only [Results.signedQuotient, ← Word.sdiv_eq_ofInt, ← Word.srem_eq_ofInt,
    Results.value_cons, Results.value_nil, Fin.ext_iff (b := r), Fin.ext_iff (b := r + 1), hnext,
    hzero]
  by_cases h₀ : r'.val = r.val
  · simp [h₀]
  by_cases h₁ : r'.val = r.val + 1
  · simp [h₁]
  · simp [h₀, h₁]

lemma divided_carriedOut {divisor : Word} (hdivisor : divisor ≠ 0) (dividend : Word) {r : Register}
    (hr : r.val + 1 ≤ 255) (alu : Alu) :
    Divided divisor dividend r alu ((Results.signedQuotient divisor dividend r).carriedOut alu)
      (dividend.sdiv divisor) (dividend.srem divisor) := by
  have hpos : 0 < divisor.toInt.natAbs :=
    Int.natAbs_pos.mpr fun h => hdivisor (BitVec.eq_of_toInt_eq h)
  refine ⟨fun h => ?_, ?_, ?_, Word.toInt_sdiv_of_wraps, fun r' => ?_, rfl⟩
  · rw [Word.toInt_sdiv_of_fits h, BitVec.toInt_srem, Int.add_comm, Int.tmod_add_tdiv_mul]
  · rw [BitVec.toInt_srem, Int.natAbs_tmod]
    exact Nat.mod_lt _ hpos
  · rw [BitVec.toInt_srem, ← Int.sign_eq_zero_iff_zero, Int.sign_tmod]
    by_cases h : divisor.toInt ∣ dividend.toInt
    · exact .inl (if_pos h)
    · exact .inr (if_neg h)
  · rw [Results.peek_carriedOut, value_signedQuotient _ _ hr]

/-- A signed division succeeds just if there is a register for the remainder and the divisor is not
zero; the register is looked for first. If it succeeds then quotient and remainder are exact, unless
the least number is divided by minus one; if it does not, nothing is changed. -/
theorem divideSigned_exact (divisor dividend : Word) (r : Register) (alu : Alu) :
    ((divideSigned divisor dividend r alu).result = .ok () ↔
        r.val + 1 ≤ 255 ∧ divisor ≠ 0) ∧
      (¬ r.val + 1 ≤ 255 →
        (divideSigned divisor dividend r alu).result = .error (.registerOutOfRange 256)) ∧
      (r.val + 1 ≤ 255 → divisor = 0 →
        (divideSigned divisor dividend r alu).result = .error .divisionByZero) ∧
      (∀ f, (divideSigned divisor dividend r alu).result = .error f →
        (divideSigned divisor dividend r alu).state = alu) ∧
      ((divideSigned divisor dividend r alu).result = .ok () →
        ∃ quotient rem,
          Divided divisor dividend r alu (divideSigned divisor dividend r alu).state
            quotient rem) := by
  have hprecise := (checksFirst_divideSigned divisor dividend r).precise alu
  by_cases hr : r.val + 1 ≤ 255
  case neg =>
    have hlast : r.val = 255 := by omega
    have hmissing := divideSigned_of_out_of_range hlast divisor dividend alu
    have hfails : (divideSigned divisor dividend r alu).result ≠ .ok () := by
      rw [hmissing]
      nofun
    exact ⟨iff_of_false hfails fun h => hr h.1, fun _ => hmissing, fun h => absurd h hr, hprecise,
      fun h => absurd h hfails⟩
  have hlast : r.val ≠ 255 := by omega
  by_cases hdivisor : divisor = 0
  case pos =>
    have hzero : (divideSigned divisor dividend r alu).result = .error .divisionByZero := by
      rw [hdivisor]
      exact divideSigned_of_zero hlast dividend alu
    have hfails : (divideSigned divisor dividend r alu).result ≠ .ok () := by
      rw [hzero]
      nofun
    exact ⟨iff_of_false hfails fun h => h.2 hdivisor, fun h => absurd hr h, fun _ _ => hzero,
      hprecise, fun h => absurd h hfails⟩
  case neg =>
    obtain ⟨hok, hstate⟩ := divideSigned_of_ne_zero hlast hdivisor dividend alu
    have hdivided := divided_carriedOut hdivisor dividend hr alu
    rw [← hstate] at hdivided
    exact ⟨iff_of_true hok ⟨hr, hdivisor⟩, fun h => absurd hr h, fun _ h => absurd h hdivisor,
      hprecise, fun _ => ⟨_, _, hdivided⟩⟩

end LectureMachine.Alu
