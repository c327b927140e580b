import LectureMachine.Proofs.Alu.Sums
import LectureMachine.Proofs.Instruction.Frame
import LectureMachine.Proofs.Machine.Flaw

/-!
# Comparisons

To compare two numbers is to subtract one from the other and to look at the flags. The names of the
conditions say which numbers a jump is taken for, and this is proved of all pairs of words, read as
signed or as unsigned numbers. The jump need not follow the subtraction at once: the flags stay as
they are until an instruction marks them.
-/

namespace LectureMachine

open Transition

/-! ### Conditions -/

/-- What a condition says about two numbers, after `x` was subtracted from `y`. -/
def Condition.Compares (c : Condition) (x y : Word) : Prop :=
  match c with
  | .always => True
  | .zero => y = x
  | .notZero => y ≠ x
  | .less => y.toInt < x.toInt
  | .greaterEqual => y.toInt ≥ x.toInt
  | .lessEqual => y.toInt ≤ x.toInt
  | .greater => y.toInt > x.toInt
  | .below => y.toNat < x.toNat
  | .aboveEqual => y.toNat ≥ x.toNat
  | .belowEqual => y.toNat ≤ x.toNat
  | .above => y.toNat > x.toNat

instance (c : Condition) (x y : Word) : Decidable (c.Compares x y) :=
  match c with
  | .always => inferInstanceAs (Decidable True)
  | .zero => inferInstanceAs (Decidable (y = x))
  | .notZero => inferInstanceAs (Decidable (y ≠ x))
  | .less => inferInstanceAs (Decidable (y.toInt < x.toInt))
  | .greaterEqual => inferInstanceAs (Decidable (y.toInt ≥ x.toInt))
  | .lessEqual => inferInstanceAs (Decidable (y.toInt ≤ x.toInt))
  | .greater => inferInstanceAs (Decidable (y.toInt > x.toInt))
  | .below => inferInstanceAs (Decidable (y.toNat < x.toNat))
  | .aboveEqual => inferInstanceAs (Decidable (y.toNat ≥ x.toNat))
  | .belowEqual => inferInstanceAs (Decidable (y.toNat ≤ x.toNat))
  | .above => inferInstanceAs (Decidable (y.toNat > x.toNat))

/-- The flags tell how the numbers compare. -/
def Flags.Compare (flags : Flags) (x y : Word) : Prop :=
  ∀ c : Condition, c.holds flags = true ↔ c.Compares x y

namespace Alu.Results

variable (x y : Word) (r : Register) (flags : Flags)

lemma zero_difference : ((difference x y r).flags flags).zero = true ↔ y = x := by
  rw [← Word.sub_eq_zero_iff]
  exact beq_iff_eq

lemma carry_difference : ((difference x y r).flags flags).carry = true ↔ y.toNat < x.toNat := by
  rw [← Word.lt_toNat_sub_iff]
  exact decide_eq_true_iff

/-- The sign is that of the true difference, unless the difference has overflowed. -/
lemma sign_ne_overflow_difference :
    ((difference x y r).flags flags).sign ≠ ((difference x y r).flags flags).overflow ↔
      y.toInt < x.toInt := by
  rw [(describe_difference x y r flags).negative]
  omega

/-- The flags of a difference compare the numbers. -/
lemma compare_difference : ((difference x y r).flags flags).Compare x y := by
  have hzero := zero_difference x y r flags
  have hcarry := carry_difference x y r flags
  have hless := sign_ne_overflow_difference x y r flags
  have hint : y = x ↔ y.toInt = x.toInt := BitVec.toInt_inj.symm
  have hnat : y = x ↔ y.toNat = x.toNat := BitVec.toNat_inj.symm
  generalize (difference x y r).flags flags = f at hzero hcarry hless
  have hsame : f.sign = f.overflow ↔ ¬ y.toInt < x.toInt := by
    rw [← hless, not_ne_iff]
  intro c
  cases c with
  | always => exact iff_of_true rfl trivial
  | zero => exact hzero
  | notZero =>
    rw [Condition.holds, Bool.not_eq_true', ← Bool.not_eq_true, hzero]
    rfl
  | less =>
    rw [Condition.holds, bne_iff_ne, hless]
    rfl
  | greaterEqual =>
    rw [Condition.holds, beq_iff_eq, hsame, Condition.Compares]
    omega
  | lessEqual =>
    rw [Condition.holds, Bool.or_eq_true, bne_iff_ne, hzero, hless, hint, Condition.Compares]
    omega
  | greater =>
    rw [Condition.holds, Bool.and_eq_true, Bool.not_eq_true', ← Bool.not_eq_true, beq_iff_eq,
      hzero, hsame, hint, Condition.Compares]
    omega
  | below => exact hcarry
  | aboveEqual =>
    rw [Condition.holds, Bool.not_eq_true', ← Bool.not_eq_true, hcarry, Condition.Compares]
    omega
  | belowEqual =>
    rw [Condition.holds, Bool.or_eq_true, hzero, hcarry, hnat, Condition.Compares]
    omega
  | above =>
    rw [Condition.holds, Bool.and_eq_true, Bool.not_eq_true', Bool.not_eq_true',
      ← Bool.not_eq_true, ← Bool.not_eq_true, hzero, hcarry, hnat, Condition.Compares]
    omega

end Alu.Results

/-! ### Steps and flags -/

namespace Machine

variable {δ : Type} [Device δ]

/-- A machine that has compared `x` with `y`: a difference was the last instruction to mark the
flags. Input may arrive at any time. -/
inductive Compared (x y : Word) : Machine δ → Prop
  | compare {m : Machine δ} {w : InstructionWord} {o : Operand} (running : m.halted = false)
    (hword : m.nextWord = some w) (hi : Instruction.ofOpcode? w.opcode = some (.subtract o))
    (hx : o.eval (·.ux) w.field m.core.alu = x) (hy : m.core.alu.peek w.field.ry = y) :
    Compared x y (step m).state
  | step {m : Machine δ} {i : Instruction} (h : Compared x y m) (hi : m.nextInstruction = some i)
    (hmarks : i.marks = {}) (hgoes : (step m).state.halted = false) : Compared x y (step m).state
  | arrive {m : Machine δ} (h : Compared x y m) (input : δ → δ) :
    Compared x y { m with device := input m.device }

/-- The instruction that subtracts completes and leaves the flags of the difference. -/
lemma executeCurrent_of_subtract {m : Machine δ} {w : InstructionWord} {o : Operand}
    (running : m.halted = false) (hword : m.nextWord = some w)
    (hi : Instruction.ofOpcode? w.opcode = some (.subtract o)) :
    m.Completes ∧ (executeCurrent m).state.core.alu.flags =
      (Alu.Results.difference (o.eval (·.ux) w.field m.core.alu) (m.core.alu.peek w.field.ry)
        w.field.rz).flags m.core.alu.flags := by
  obtain ⟨hok, hstate⟩ := executeCurrent_of_allowed hword hi rfl
  rw [Completes, hok, hstate]
  exact ⟨⟨rfl, running⟩, rfl⟩

/-- A machine that has compared two numbers is running, and its flags tell how they compare. -/
lemma Compared.flags {x y : Word} {m : Machine δ} (h : Compared x y m) :
    m.halted = false ∧ m.core.alu.flags.Compare x y := by
  induction h with
  | @compare m w o running hword hi hx hy =>
    obtain ⟨hcompletes, hflags⟩ := executeCurrent_of_subtract running hword hi
    refine ⟨(halted_step_eq_false_iff running).mpr hcompletes, ?_⟩
    obtain ⟨ip, jumped, hcore⟩ := core_step running
    rw [hcore, hflags, hx, hy]
    exact Alu.Results.compare_difference x y _ _
  | @step m i _ hi hmarks hgoes ih =>
    obtain ⟨running, hcompare⟩ := ih
    obtain ⟨w, v, hword, hop, he⟩ := executeCurrent_of_nextInstruction hi
    have hframe := (Instruction.frame_of_legal ⟨_, hop⟩ w.field { m with core.ir := w }).flags
    rw [hmarks] at hframe
    obtain ⟨ip, jumped, hcore⟩ := core_step running
    refine ⟨hgoes, ?_⟩
    rw [hcore, he, Outcome.state_after, hframe.eq]
    exact hcompare
  | arrive _ _ ih => exact ih

/-! ### Jumps -/

/-- Where a machine that has compared two numbers jumps to. -/
lemma Compared.jumpTarget? {x y : Word} {m : Machine δ} {w : InstructionWord} {c : Condition}
    (h : Compared x y m) (hword : m.nextWord = some w)
    (hi : Instruction.ofOpcode? w.opcode = some (.jumpRelative c)) :
    m.jumpTarget? = if c.Compares x y then some (m.core.ip + 4 * w.field.sxyz) else none := by
  have hc : m.core.holds c = true ↔ c.Compares x y := h.flags.2 c
  rw [Machine.jumpTarget?, hword, Option.bind_some, hi, Option.bind_some, Instruction.target?,
    Word.shiftLeft_two]
  exact if_congr hc rfl rfl

/-- After a comparison of `x` with `y`, and any number of instructions that do not mark the flags, a
jump is taken just if its condition holds of the two numbers. If nothing is left over from earlier
steps, the machine goes on there, or else with the next instruction. -/
theorem jump_iff_compares {x y : Word} {m : Machine δ} {w : InstructionWord} {c : Condition}
    (compared : Compared x y m) (next : m.nextWord = some w)
    (jump : Instruction.ofOpcode? w.opcode = some (.jumpRelative c)) :
    (executeCurrent m).result = .ok () ∧
      (executeCurrent m).state.core.place =
        (if c.Compares x y then (m.core.ip + 4 * w.field.sxyz, true) else m.core.place) ∧
      (m.IsFresh →
        (step m).result = .ok .running ∧
          (step m).state.core.ip =
            if c.Compares x y then m.core.ip + 4 * w.field.sxyz else m.core.ip + 4) := by
  obtain ⟨running, -⟩ := compared.flags
  have htarget := compared.jumpTarget? next jump
  obtain ⟨hok, hstate⟩ := executeCurrent_of_allowed next jump rfl
  refine ⟨hok, ?_, fun hfresh => ?_⟩
  · rw [place_executeCurrent, htarget]
    split <;> rfl
  · have hcompletes : m.Completes := by
      rw [Completes, hok, hstate]
      exact ⟨rfl, running⟩
    have hne : m.nextInstruction ≠ some .getc := by
      rw [nextInstruction, next, Option.bind_some, jump]
      exact fun hgetc => Instruction.noConfusion (Option.some.inj hgetc)
    obtain ⟨hr, hip⟩ := hfresh.goes_on running hcompletes hne
    rw [htarget] at hip
    refine ⟨hr, hip.trans ?_⟩
    split <;> rfl

/-- An instruction that concerns the registers and the flags alone leaves the program as it is and
goes on to the next instruction. -/
lemma step_of_alu {m : Machine δ} {w : InstructionWord} {i : Instruction} {alu : Alu}
    (running : m.halted = false) (hfresh : m.IsFresh) (hword : m.nextWord = some w)
    (hi : Instruction.ofOpcode? w.opcode = some i) (hne : i ≠ .getc)
    (htarget : i.target? w.field m.core = none)
    (he : (executeCurrent m).result = .ok () ∧
      (executeCurrent m).state = { m with core.alu := alu, core.ir := w }) :
    (step m).state.halted = false ∧ (step m).state.core.memory = m.core.memory ∧
      (step m).state.core.ip = m.core.ip + 4 := by
  obtain ⟨hok, hstate⟩ := he
  obtain ⟨ip, jumped, hcore⟩ := core_step running
  have hcompletes : m.Completes := by
    rw [Completes, hok, hstate]
    exact ⟨rfl, running⟩
  have hnext : m.nextInstruction ≠ some .getc := by
    rw [nextInstruction, hword, Option.bind_some, hi]
    exact fun hgetc => hne (Option.some.inj hgetc)
  have hnone : m.jumpTarget? = none := by
    rw [Machine.jumpTarget?, hword, Option.bind_some, hi, Option.bind_some, htarget]
  have hip := (hfresh.goes_on running hcompletes hnext).2
  rw [hnone] at hip
  refine ⟨(halted_step_eq_false_iff running).mpr hcompletes, ?_, hip⟩
  rw [hcore, hstate]

/-- A program that compares 5 with register 1, does nothing for a moment and then jumps if the
register was less. -/
def compareAndJump : List InstructionWord := [0x39050102, 0xFF000000, 0x44000002]

/-- A machine with this program. Register 1 holds 0. -/
def comparing : Machine Buffered := (loadProgram compareAndJump (new {})).state

lemma nextWord_comparing {m : Machine Buffered} {k : Nat}
    (hm : m.core.memory = comparing.core.memory) (hk : k < compareAndJump.length)
    (hip : m.core.ip = BitVec.ofNat 64 (4 * k)) : m.nextWord = some compareAndJump[k] := by
  have hlength : compareAndJump.length = 3 := rfl
  exact nextWord_of_storeProgram hm hk (by omega) hip

/-- 0 is less than 5, and the jump goes over two instructions. -/
theorem jump_iff_compares_less :
    Compared 5 0 (step (step comparing).state).state ∧
      (step (step comparing).state).state.nextWord = some 0x44000002 ∧
      Instruction.ofOpcode? (InstructionWord.opcode 0x44000002) = some (.jumpRelative .less) ∧
      (step (step (step comparing).state).state).state.core.ip = 16 := by
  have hsubtract : Instruction.ofOpcode? (InstructionWord.opcode 0x39050102)
      = some (.subtract .immediate) := by
    rw [Instruction.ofOpcode?_eq_lookup]
    decide
  have hnop : Instruction.ofOpcode? (InstructionWord.opcode 0xFF000000) = some .nop := by
    rw [Instruction.ofOpcode?_eq_lookup]
    decide
  have hjump : Instruction.ofOpcode? (InstructionWord.opcode 0x44000002)
      = some (.jumpRelative .less) := by
    rw [Instruction.ofOpcode?_eq_lookup]
    decide
  have hfresh : comparing.IsFresh := fun _ => ⟨rfl, nofun⟩
  have hword : comparing.nextWord = some 0x39050102 :=
    nextWord_comparing (k := 0) rfl (by decide) rfl
  have hcompared := Compared.compare (x := 5) (y := 0) rfl hword hsubtract rfl rfl
  obtain ⟨hrunning₁, hmemory₁, hip₁⟩ := step_of_alu rfl hfresh hword hsubtract (by decide) rfl
    (executeCurrent_of_allowed hword hsubtract rfl)
  have hfresh₁ := hfresh.step
  generalize (step comparing).state = m₁ at *
  have hword₁ : m₁.nextWord = some 0xFF000000 :=
    nextWord_comparing (k := 1) hmemory₁ (by decide) hip₁
  have hnext₁ : m₁.nextInstruction = some .nop := by
    rw [nextInstruction, hword₁, Option.bind_some, hnop]
  obtain ⟨hrunning₂, hmemory₂, hip₂⟩ := step_of_alu hrunning₁ hfresh₁ hword₁ hnop (by decide) rfl
    (executeCurrent_of_allowed hword₁ hnop rfl)
  have hcompared₂ := hcompared.step hnext₁ rfl hrunning₂
  rw [hip₁] at hip₂
  have hword₂ := nextWord_comparing (k := 2) (hmemory₂.trans hmemory₁) (by decide) hip₂
  obtain ⟨-, -, hjumps⟩ := jump_iff_compares hcompared₂ hword₂ hjump
  refine ⟨hcompared₂, hword₂, hjump, ?_⟩
  rw [(hjumps hfresh₁.step).2, hip₂]
  rfl

end Machine

end LectureMachine
