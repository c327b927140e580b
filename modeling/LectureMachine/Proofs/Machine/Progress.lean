import LectureMachine.Proofs.Machine.Flaw
import LectureMachine.Proofs.Machine.Limit
import LectureMachine.Proofs.Machine.ZeroRegister

/-!
# How a program gets on

A machine that carries out a program goes from word to word. Most instructions change no more than
registers, flags and the device; such an instruction leaves the machine at the next word, or at the
word to which it jumps. A run of a program is put together from these steps.
-/

namespace LectureMachine

open Transition

/-- A change of registers, flags and the device, or a jump. -/
structure Change.IsPlain {δ : Type} (c : Change δ) : Prop where
  stored : c.stored = none
  exitCode : c.exitCode = none
  blocked : c.blocked = none

namespace Machine

variable {δ : Type} [Device δ] {m m' m'' : Machine δ} {n k : Nat}

/-! ### Going on -/

/-- In `n` steps, and in no fewer, the machine becomes another one that is still running. -/
def GoesOn (m : Machine δ) (n : Nat) (m' : Machine δ) : Prop :=
  ∃ done, runFor n m = ⟨.ok .stepLimit, m', done⟩

lemma GoesOn.refl (m : Machine δ) : m.GoesOn 0 m := ⟨[], rfl⟩

lemma goesOn_of_step (h : (step m).result = .ok .running) : m.GoesOn 1 (step m).state := by
  refine ⟨(step m).activity, ?_⟩
  rw [runFor_succ_eq]
  simp only [h, runFor_zero, Outcome.after_mk, List.append_nil]

lemma GoesOn.keepsRunning (h : m.GoesOn n m') : m.KeepsRunning n := by
  obtain ⟨done, hrun⟩ := h
  exact result_runFor_eq_stepLimit_iff.mp (congrArg Outcome.result hrun)

lemma GoesOn.trans (h : m.GoesOn n m') (h' : m'.GoesOn k m'') : m.GoesOn (n + k) m'' := by
  obtain ⟨done, hrun⟩ := id h
  obtain ⟨done', hrun'⟩ := h'
  refine ⟨done ++ done', ?_⟩
  rw [runFor_add h.keepsRunning, hrun, hrun', Outcome.after_mk]

/-- As many instructions were completed. -/
lemma GoesOn.steps (h : m.GoesOn n m') : m'.steps = m.steps + n := by
  have hsteps := steps_runFor h.keepsRunning
  obtain ⟨done, hrun⟩ := h
  rwa [hrun] at hsteps

lemma GoesOn.result_of_le (h : m.GoesOn n m') (hk : k ≤ n) :
    (runFor k m).result = .ok .stepLimit :=
  result_runFor_eq_stepLimit_iff.mpr fun j hj => h.keepsRunning j (by omega)

/-- If the next step halts the machine then so ends every longer run. -/
lemma GoesOn.runFor_of_lt (h : m.GoesOn n m') (hhalts : (step m').result = .ok .halted)
    (hk : n < k) :
    ∃ done, runFor k m = ⟨(step m').state.verdict.map .halted, (step m').state, done⟩ := by
  obtain ⟨c, rfl⟩ := Nat.exists_eq_add_of_lt hk
  obtain ⟨done, hrun⟩ := id h
  refine ⟨done ++ (step m').activity, ?_⟩
  rw [Nat.add_assoc, runFor_add h.keepsRunning, hrun]
  simp only [runFor_succ_eq, hhalts, Outcome.after_mk]

/-! ### Plain instructions -/

variable {w : InstructionWord} {op : Instruction}

/-- The machine after a plain instruction: what the instruction changes, and the next place. -/
def wentOn (m : Machine δ) (w : InstructionWord) (op : Instruction) : Machine δ :=
  { m with
    core :=
      { alu := (op.change w.field m).alu.carriedOut m.core.alu
        memory := m.core.memory
        ir := w
        ip := (op.target? w.field m.core).getD (m.core.ip + 4)
        jumped := false }
    device := (op.change w.field m).device.getD m.device
    steps := m.steps + 1 }

lemma peek_wentOn (m : Machine δ) (w : InstructionWord) (op : Instruction) (r : Register) :
    (m.wentOn w op).core.alu.peek r = (op.change w.field m).alu.value m.core.alu r :=
  Alu.Results.peek_carriedOut _ _ r

lemma step_of_plain (running : m.halted = false) (hblocked : m.blocked = false)
    (hjumped : m.core.jumped = false) (hword : m.nextWord = some w)
    (hop : Instruction.ofOpcode? w.opcode = some op)
    (hallowed : op.refusal? w.field m.core.alu = none) (hplain : (op.change w.field m).IsPlain) :
    (step m).result = .ok .running ∧ (step m).state = m.wentOn w op := by
  obtain ⟨hok, hstate⟩ := executeCurrent_of_allowed hword hop hallowed
  have hchange : op.change w.field { m with core.ir := w } = op.change w.field m := by
    cases op <;> rfl
  have htarget : op.target? w.field { m.core with ir := w } = op.target? w.field m.core := by
    cases op <;> rfl
  rw [hchange, htarget] at hstate
  have hhalted : (executeCurrent m).state.halted = false := by
    rw [hstate, Change.carriedOut, hplain.exitCode]
    exact running
  have hwaits : (executeCurrent m).state.blocked = false := by
    rw [hstate, Change.carriedOut, hplain.blocked]
    exact hblocked
  obtain ⟨hr, hadvanced⟩ := step_of_goes_on running ⟨hok, hhalted⟩ hwaits
  refine ⟨hr, ?_⟩
  rw [hadvanced, hstate, wentOn, advanced, Change.carriedOut]
  simp only [hplain.stored, hplain.exitCode, hplain.blocked]
  cases op.target? w.field m.core with
  | some target => rfl
  | none => simp [Core.incrementIp, Core.placeAfter, Core.place, hjumped]

/-- The instruction that halts leaves all else as it was. -/
lemma step_of_halt {code : Operand} (running : m.halted = false) (hword : m.nextWord = some w)
    (hop : Instruction.ofOpcode? w.opcode = some (.halt code)) :
    (step m).result = .ok .halted ∧
      (step m).state =
        { m with
          core.ir := w
          halted := true
          exitCode := (code.eval (·.ux) w.field m.core.alu).setWidth 8 } := by
  obtain ⟨hok, hstate⟩ := executeCurrent_of_allowed hword hop rfl
  rcases he : executeCurrent m with ⟨result, after, done⟩
  rw [he] at hok hstate
  obtain rfl : result = .ok () := hok
  obtain rfl := hstate
  rw [step_of_ok running he, advance_of_halted rfl]
  exact ⟨rfl, rfl⟩

/-! ### From word to word -/

/-- The machine has come to word `i` of the program and nothing has gone wrong. -/
structure AtWord (program : List InstructionWord) (i : Nat) (m : Machine δ) : Prop where
  memory : m.core.memory = ({} : Memory).storeProgram 0 program
  ip : m.core.ip = BitVec.ofNat 64 (4 * i)
  jumped : m.core.jumped = false
  halted : m.halted = false
  blocked : m.blocked = false
  errorMessage : m.errorMessage = none
  fault : m.fault = none
  exitCode : m.exitCode = 0
  readsZero : m.ReadsZero

variable {program : List InstructionWord} {i : Nat}

omit [Device δ] in
lemma atWord_loadProgram (program : List InstructionWord) (device : δ) :
    AtWord program 0 (loadProgram program (new device)).state :=
  ⟨rfl, rfl, rfl, rfl, rfl, rfl, rfl, rfl, Alu.peek_empty 0⟩

omit [Device δ] in
lemma AtWord.nextWord (h : AtWord program i m) (hw : program[i]? = some w)
    (hfit : 4 * i < 2 ^ 64) : m.nextWord = some w := by
  obtain ⟨hi, rfl⟩ := List.getElem?_eq_some_iff.mp hw
  exact nextWord_of_storeProgram h.memory hi hfit h.ip

/-- A plain instruction leads from one word of the program to another. -/
lemma AtWord.goesOn (h : AtWord program i m) (hw : program[i]? = some w) (hfit : 4 * i < 2 ^ 64)
    (hop : Instruction.ofOpcode? w.opcode = some op)
    (hallowed : op.refusal? w.field m.core.alu = none) (hplain : (op.change w.field m).IsPlain)
    (htarget : (op.target? w.field m.core).getD (m.core.ip + 4) = BitVec.ofNat 64 (4 * k)) :
    m.GoesOn 1 (m.wentOn w op) ∧ AtWord program k (m.wentOn w op) := by
  obtain ⟨hr, hstate⟩ :=
    step_of_plain h.halted h.blocked h.jumped (h.nextWord hw hfit) hop hallowed hplain
  have hgoes := goesOn_of_step hr
  have hzero := h.readsZero.step
  rw [hstate] at hgoes hzero
  exact ⟨hgoes, h.memory, htarget, rfl, h.halted, h.blocked, h.errorMessage, h.fault, h.exitCode,
    hzero⟩

/-- An instruction that makes no jump leads to the next word. -/
lemma AtWord.goesOn_succ (h : AtWord program i m) (hw : program[i]? = some w)
    (hfit : 4 * i < 2 ^ 64) (hop : Instruction.ofOpcode? w.opcode = some op)
    (hallowed : op.refusal? w.field m.core.alu = none) (hplain : (op.change w.field m).IsPlain)
    (htarget : op.target? w.field m.core = none) :
    m.GoesOn 1 (m.wentOn w op) ∧ AtWord program (i + 1) (m.wentOn w op) := by
  refine h.goesOn hw hfit hop hallowed hplain ?_
  rw [htarget, Option.getD_none, h.ip, Nat.mul_succ, BitVec.ofNat_add]
  rfl

end Machine

end LectureMachine
