import LectureMachine.Proofs.Alu.ZeroRegister
import LectureMachine.Proofs.Instruction.Frame
import LectureMachine.Proofs.Machine.Blocking

/-!
# The zero register

Nothing in a register says that register 0 is wired to zero; it holds what it held when the machine
was switched on. But no instruction puts anything but zero there, and neither does the host, so that
it reads as zero for ever.
-/

namespace LectureMachine

open Transition

namespace Machine

variable {δ : Type} [Device δ]

/-- Register 0 reads as zero. -/
def ReadsZero (m : Machine δ) : Prop := m.core.alu.peek 0 = 0

lemma ReadsZero.executeCurrent {m : Machine δ} (h : m.ReadsZero) :
    (executeCurrent m).state.ReadsZero := by
  cases hi : m.nextInstruction with
  | none =>
    obtain ⟨f, ir, done, he, -⟩ := executeCurrent_of_nextInstruction_eq_none hi
    rw [he]
    exact h
  | some i =>
    obtain ⟨w, v, -, hop, he⟩ := executeCurrent_of_nextInstruction hi
    have hframe := Instruction.frame_of_legal ⟨_, hop⟩ w.field { m with core.ir := w }
    rw [he]
    exact hframe.register_zero h

lemma ReadsZero.step {m : Machine δ} (h : m.ReadsZero) : (step m).state.ReadsZero := by
  cases running : m.halted with
  | true =>
    rw [step_of_halted running]
    exact h
  | false =>
    obtain ⟨ip, jumped, hcore⟩ := core_step running
    rw [ReadsZero, hcore]
    exact h.executeCurrent

/-- Whatever is done with a machine, its register 0 reads as zero. -/
theorem Reached.readsZero {mayLoad : Machine δ → Prop} {m : Machine δ} (h : Reached mayLoad m) :
    m.ReadsZero := by
  induction h with
  | new device => exact Alu.peek_empty 0
  | arrive _ input ih => exact ih
  | load _ _ program ih => exact ih
  | step _ ih => exact ih.step
  | runFor _ limit ih => exact runFor_preserves (fun _ => ReadsZero.step) limit ih
  | reset _ _ => exact Alu.peek_empty 0

end Machine

end LectureMachine
