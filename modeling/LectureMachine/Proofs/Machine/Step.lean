import LectureMachine.Proofs.Instruction.Shape
import LectureMachine.Proofs.Memory.Flat
import LectureMachine.Machine.Step

/-!
# Steps taken apart

A step fetches an instruction word, carries it out and looks at what became of the machine. Each of
these parts is described here once, for all that is proved about steps.
-/

namespace LectureMachine.Machine

open Transition

variable {δ : Type}

/-- The operation that the next step carries out, if the next word is one. -/
def nextInstruction (m : Machine δ) : Option Instruction :=
  m.nextWord.bind fun word => Instruction.ofOpcode? word.opcode

/-- The machine has stopped because of a fault. -/
def stopped (m : Machine δ) (f : Fault) : Machine δ :=
  { m with errorMessage := some f.message, fault := some f, blocked := false, halted := true }

/-- The machine has gone on to the next instruction. -/
def advanced (m : Machine δ) : Machine δ :=
  { m with core := (Core.incrementIp m.core).state, steps := m.steps + 1 }

/-- The words of a program come next one after the other. -/
lemma nextWord_of_storeProgram {m : Machine δ} {memory : Memory} {program : List InstructionWord}
    {i : Nat} (hm : m.core.memory = memory.storeProgram 0 program) (hi : i < program.length)
    (hfit : 4 * i < 2 ^ 64) (hip : m.core.ip = BitVec.ofNat 64 (4 * i)) :
    m.nextWord = some program[i] := by
  rw [nextWord, hm, hip, memory.peek_storeProgram hi hfit]
  simp

lemma nextWord_loadProgram {m : Machine δ} {program : List InstructionWord} {i : Nat}
    (hi : i < program.length) (hfit : 4 * i < 2 ^ 64) (hip : m.core.ip = BitVec.ofNat 64 (4 * i)) :
    (loadProgram program m).state.nextWord = some program[i] :=
  nextWord_of_storeProgram rfl hi hfit hip

/-! ### What comes after -/

lemma advance_of_halted {m : Machine δ} (h : m.halted = true) :
    advance m =
      ⟨.ok .halted, m, [.machine (.halt m.exitCode (m.errorMessage.map Complaint.mk))]⟩ := by
  simp [advance, advanceUnder, bind_apply, Except.map, h]

lemma advance_of_blocked {m : Machine δ} (h : m.halted = false) (hb : m.blocked = true) :
    advance m = ⟨.ok .blocked, m, [.machine .block]⟩ := by
  simp [advance, advanceUnder, bind_apply, Except.map, h, hb]

lemma advance_of_running {m : Machine δ} (h : m.halted = false) (hb : m.blocked = false) :
    advance m = ⟨.ok .running, m.advanced, [.machine (.next m.advanced.nextWord)]⟩ := by
  simp [advance, advanceUnder, preview, advanced, Core.incrementIp, bind_apply, Except.map, h, hb]

/-- What comes after an instruction concerns the core and the number of steps at most. -/
lemma advance_shape (m : Machine δ) :
    ∃ status core steps event,
      advance m = ⟨.ok status, { m with core, steps }, [.machine event]⟩ := by
  by_cases hh : m.halted = true
  · exact ⟨_, m.core, m.steps, _, advance_of_halted hh⟩
  rw [Bool.not_eq_true] at hh
  by_cases hb : m.blocked = true
  · exact ⟨_, m.core, m.steps, _, advance_of_blocked hh hb⟩
  · exact ⟨_, _, _, _, advance_of_running hh (Bool.not_eq_true _ ▸ hb)⟩

/-- Of the core, it concerns the place in the program alone. -/
lemma core_advance (m : Machine δ) :
    ∃ ip jumped, (advance m).state.core = { m.core with ip, jumped } := by
  by_cases hh : m.halted = true
  · exact ⟨m.core.ip, m.core.jumped, by rw [advance_of_halted hh]⟩
  rw [Bool.not_eq_true] at hh
  by_cases hb : m.blocked = true
  · exact ⟨m.core.ip, m.core.jumped, by rw [advance_of_blocked hh hb]⟩
  rw [advance_of_running hh (Bool.not_eq_true _ ▸ hb), advanced, Core.incrementIp, modify_apply]
  by_cases hj : m.core.jumped = true
  · exact ⟨m.core.ip, false, if_pos hj⟩
  · exact ⟨m.core.ip + 4, m.core.jumped, if_neg hj⟩

variable [Device δ]

/-! ### Fetching and carrying out -/

lemma executeCurrent_of_error {m : Machine δ} {f : Fault}
    (h : m.core.memory.peek m.core.ip 4 = .error f) : executeCurrent m = ⟨.error f, m, []⟩ := by
  simp [executeCurrent, Core.loadInstruction, bind_apply, Memory.read_apply, h]

lemma executeCurrent_of_ok {m : Machine δ} {v : Word}
    (h : m.core.memory.peek m.core.ip 4 = .ok v) :
    executeCurrent m =
      (InstructionWord.execute (v.setWidth 32) { m with core.ir := v.setWidth 32 }).after
        [.memory (.read m.core.ip 4 v)] := by
  simp [executeCurrent, Core.loadInstruction, bind_apply, Memory.read_apply, h]

/-- Either no word can be fetched and nothing happens, or the word that comes next is kept as the
instruction word and carried out. -/
lemma executeCurrent_cases (m : Machine δ) :
    (m.nextWord = none ∧ ∃ f, executeCurrent m = ⟨.error f, m, []⟩) ∨
      ∃ word v, m.nextWord = some word ∧
        executeCurrent m = (word.execute { m with core.ir := word }).after
          [.memory (.read m.core.ip 4 v)] := by
  cases h : m.core.memory.peek m.core.ip 4 with
  | error f => exact .inl ⟨by simp [nextWord, h], f, executeCurrent_of_error h⟩
  | ok v => exact .inr ⟨v.setWidth 32, v, by simp [nextWord, h], executeCurrent_of_ok h⟩

lemma executeCurrent_of_nextWord {m : Machine δ} {word : InstructionWord}
    (h : m.nextWord = some word) :
    ∃ v, executeCurrent m = (word.execute { m with core.ir := word }).after
      [.memory (.read m.core.ip 4 v)] := by
  rcases m.executeCurrent_cases with ⟨hnone, -⟩ | ⟨word', v, hsome, he⟩
  · rw [h] at hnone
    cases hnone
  · obtain rfl : word = word' := Option.some.inj (h.symm.trans hsome)
    exact ⟨v, he⟩

/-- If the next word is an instruction, the step carries it out. -/
lemma executeCurrent_of_nextInstruction {m : Machine δ} {i : Instruction}
    (h : m.nextInstruction = some i) :
    ∃ word v, m.nextWord = some word ∧ Instruction.ofOpcode? word.opcode = some i ∧
      executeCurrent m = (i.execute word.field { m with core.ir := word }).after
        [.memory (.read m.core.ip 4 v)] := by
  obtain ⟨word, hword, hi⟩ := Option.bind_eq_some_iff.mp h
  obtain ⟨v, he⟩ := executeCurrent_of_nextWord hword
  rw [InstructionWord.execute_of_some hi] at he
  exact ⟨word, v, hword, hi, he⟩

/-- If it is none, there is a fault, and nothing is done but to fetch the word. -/
lemma executeCurrent_of_nextInstruction_eq_none {m : Machine δ} (h : m.nextInstruction = none) :
    ∃ f ir done, executeCurrent m = ⟨.error f, { m with core.ir := ir }, done⟩ ∧
      ∀ a ∈ done, a.IsAccess := by
  rcases m.executeCurrent_cases with ⟨-, f, he⟩ | ⟨word, v, hword, he⟩
  · exact ⟨f, m.core.ir, [], he, by simp⟩
  · have hi : Instruction.ofOpcode? word.opcode = none := by
      simpa [nextInstruction, hword] using h
    rw [InstructionWord.execute_of_none hi] at he
    exact ⟨_, word, _, he, by simp [Activity.IsAccess]⟩

/-- What is not the core, the device or about halting and blocking is kept until the step ends. -/
lemma keeps_executeCurrent {γ : Type} {g : Machine δ → γ}
    (hcore : ∀ m core, g { m with core } = g m) (hdevice : ∀ m device, g { m with device } = g m)
    (hhalt : ∀ m exitCode halted, g { m with exitCode, halted } = g m)
    (hblock : ∀ m blocked, g { m with blocked } = g m) :
    Keeps g (executeCurrent : Transition (Machine δ) Unit) := by
  intro m
  cases hi : m.nextInstruction with
  | some i =>
    obtain ⟨word, v, -, -, he⟩ := executeCurrent_of_nextInstruction hi
    rw [he, Outcome.state_after, i.keeps_execute hcore hdevice hhalt hblock word.field, hcore]
  | none =>
    obtain ⟨f, ir, done, he, -⟩ := executeCurrent_of_nextInstruction_eq_none hi
    rw [he, hcore]

/-! ### The whole step -/

lemma step_of_halted {m : Machine δ} (h : m.halted = true) : step m = ⟨.ok .halted, m, []⟩ := by
  simp [step, stepUnder, bind_apply, h]

lemma step_of_error {m m' : Machine δ} {f : Fault} {done : List Activity} (h : m.halted = false)
    (he : executeCurrent m = ⟨.error f, m', done⟩) :
    step m =
      ⟨.ok .halted, m'.stopped f, done ++ [.machine (.halt m'.exitCode (some ⟨f.message⟩))]⟩ := by
  have hs := advance_of_halted (m := m'.stopped f) rfl
  rw [stopped, advance] at hs
  simp [step, stepUnder, bind_apply, h, he, haltWith, stopped, hs]

lemma step_of_ok {m m' : Machine δ} {done : List Activity} (h : m.halted = false)
    (he : executeCurrent m = ⟨.ok (), m', done⟩) : step m = (advance m').after done := by
  simp [step, stepUnder, advance, bind_apply, h, he]

/-- The registers, the flags and the memory are left to the instruction. -/
lemma core_step {m : Machine δ} (h : m.halted = false) :
    ∃ ip jumped, (step m).state.core = { (executeCurrent m).state.core with ip, jumped } := by
  rcases he : executeCurrent m with ⟨f | ⟨⟩, m', done⟩
  · rw [step_of_error h he]
    exact ⟨m'.core.ip, m'.core.jumped, rfl⟩
  · rw [step_of_ok h he]
    exact core_advance m'

end LectureMachine.Machine
