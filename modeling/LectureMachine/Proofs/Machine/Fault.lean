import LectureMachine.Proofs.Machine.Step
import LectureMachine.Device.Buffered

/-!
# Faults are precise

A step that ends in a fault has done nothing else: the registers, the flags, the memory, the device
and the place in the program are what they were, and nothing is half done.
-/

namespace LectureMachine.Machine

open Transition

variable {δ : Type} [Device δ]

/-- The fault that the next step ends in, if it does: the current instruction cannot be fetched, or
it is no instruction, or it faults. -/
def pendingFault? (m : Machine δ) : Option Fault :=
  match (executeCurrent m).result with
  | .error f => some f
  | .ok _ => none

/-- An instruction word that cannot be carried out leaves the machine as it was. -/
lemma state_execute_of_error {word : InstructionWord} {m : Machine δ} {f : Fault}
    (h : (word.execute m).result = .error f) : (word.execute m).state = m := by
  cases hi : Instruction.ofOpcode? word.opcode with
  | some i =>
    rw [InstructionWord.execute_of_some hi] at h ⊢
    exact i.execute_precise word.field h
  | none =>
    rw [InstructionWord.execute_of_none hi]
    rfl

/-- A fault leaves the machine as it was, but for the instruction word if it was fetched. -/
lemma state_executeCurrent_of_error {m : Machine δ} {f : Fault}
    (h : (executeCurrent m).result = .error f) :
    (executeCurrent m).state = { m with core.ir := m.nextWord.getD m.core.ir } := by
  rcases m.executeCurrent_cases with ⟨hword, f', he⟩ | ⟨word, v, hword, he⟩
  · rw [he, hword]
    rfl
  · rw [he, Outcome.result_after] at h
    rw [he, Outcome.state_after, state_execute_of_error h, hword]
    rfl

/-- A step takes up the fault that it ends in, if it does. -/
lemma fault_step (m : Machine δ) (running : m.halted = false) :
    (step m).state.fault = m.pendingFault?.or m.fault := by
  have hfault := keeps_executeCurrent (g := Machine.fault) (fun _ _ => rfl) (fun _ _ => rfl)
    (fun _ _ _ => rfl) (fun _ _ => rfl) m
  rw [pendingFault?]
  rcases he : executeCurrent m with ⟨f | ⟨⟩, m', done⟩ <;> rw [he] at hfault
  · rw [step_of_error running he]
    rfl
  · obtain ⟨status, core, steps, event, hadvance⟩ := advance_shape m'
    rw [step_of_ok running he, hadvance]
    exact hfault

/-- A step that ends in a fault stops the machine, and keeps the instruction word if there is
one. -/
lemma step_of_pendingFault? {m : Machine δ} {f : Fault} (running : m.halted = false)
    (hf : m.pendingFault? = some f) :
    step m =
      ⟨.ok .halted, { m with core.ir := m.nextWord.getD m.core.ir }.stopped f,
        (executeCurrent m).activity ++ [.machine (.halt m.exitCode (some ⟨f.message⟩))]⟩ := by
  have hstate := @state_executeCurrent_of_error δ _ m
  rw [pendingFault?] at hf
  rcases he : executeCurrent m with ⟨f' | ⟨⟩, m', done⟩ <;> rw [he] at hstate hf
  · obtain rfl : f' = f := Option.some.inj hf
    have hm : m' = { m with core.ir := m.nextWord.getD m.core.ir } := hstate rfl
    rw [step_of_error running he, hm]
  · cases hf

/-- A machine that has not halted remembers a fault after a step just if the step ends in one. Then
it has halted and is not blocked, its instruction word is the one that was fetched, if one was, and
all else is what it was. -/
theorem step_precise (m : Machine δ) (running : m.halted = false) :
    (step m).state.fault = m.pendingFault?.or m.fault ∧
      ∀ f, m.pendingFault? = some f →
        (step m).result = .ok .halted ∧
          (step m).state =
            { m with
              core.ir := m.nextWord.getD m.core.ir
              halted := true
              blocked := false
              errorMessage := some f.message
              fault := some f } := by
  refine ⟨fault_step m running, fun f hf => ?_⟩
  rw [step_of_pendingFault? running hf]
  exact ⟨rfl, rfl⟩

/-- A division by the immediate number 0, whose results would have gone to three registers. -/
theorem step_precise_division :
    (loadProgram [0x3B000103] (new ({} : Buffered))).state.pendingFault? = some .divisionByZero ∧
      (step (loadProgram [0x3B000103] (new ({} : Buffered))).state).state.core.alu = {} ∧
      (step (loadProgram [0x3B000103] (new ({} : Buffered))).state).state.fault
        = some .divisionByZero := by
  have hword : (loadProgram [0x3B000103] (new ({} : Buffered))).state.nextWord
      = some 0x3B000103 :=
    nextWord_loadProgram (i := 0) (by decide) (by decide) rfl
  have hopcode : Instruction.ofOpcode? (InstructionWord.opcode 0x3B000103)
      = some (.divideUnsigned .immediate) := by
    rw [Instruction.ofOpcode?_eq_lookup]
    decide
  have hfault : (loadProgram [0x3B000103] (new ({} : Buffered))).state.pendingFault?
      = some .divisionByZero := by
    obtain ⟨v, he⟩ := executeCurrent_of_nextWord hword
    rw [pendingFault?, he, Outcome.result_after, InstructionWord.execute_of_some hopcode]
    rfl
  obtain ⟨-, hstep⟩ := step_precise (loadProgram [0x3B000103] (new ({} : Buffered))).state rfl
  obtain ⟨-, hstate⟩ := hstep _ hfault
  rw [hstate]
  exact ⟨hfault, rfl, rfl⟩

end LectureMachine.Machine
