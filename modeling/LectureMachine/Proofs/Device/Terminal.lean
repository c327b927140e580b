import Mathlib.Tactic.SplitIfs
import LectureMachine.Device.Console

/-!
# What becomes of what is written

A terminal keeps all bytes that are written to it, in order: those that it shows, and behind them
those that it holds back. To show them all moves them from the one place to the other.
-/

namespace LectureMachine

namespace Terminal

lemma written_flush (t : Terminal) : t.flush.written = t.written := by
  rw [flush]
  split_ifs
  · rfl
  · simp [written]

lemma failsToWrite_flush (t : Terminal) : t.flush.failsToWrite = t.failsToWrite := by
  rw [flush]
  split_ifs <;> rfl

/-- A terminal that can be written to gets the byte, whether it shows it or not. -/
lemma written_write {t : Terminal} (h : t.failsToWrite = false) (b : Byte) :
    (t.write b).written = t.written ++ [b] ∧ (t.write b).failsToWrite = false := by
  have hpush : ({ t with heldBack := t.heldBack.push b } : Terminal).written
      = t.written ++ [b] := by
    simp [written]
  rw [write, if_neg (by rw [h]; exact Bool.false_ne_true)]
  split_ifs
  · rw [written_flush, failsToWrite_flush]
    exact ⟨hpush, h⟩
  · exact ⟨hpush, h⟩

end Terminal

namespace Console

lemma terminal_fill (c : Console) : c.fill.terminal = c.terminal.flush := by
  rw [fill]
  split <;> rfl

/-- To look for a byte makes the terminal show what was written, at most. -/
lemma written_poll (c : Console) :
    (Device.poll c).2.terminal.written = c.terminal.written ∧
      (Device.poll c).2.terminal.failsToWrite = c.terminal.failsToWrite := by
  by_cases h : (c.pending.isEmpty && !c.closed) = true
  · simp only [Device.poll, if_pos h, terminal_fill, Terminal.written_flush,
      Terminal.failsToWrite_flush, and_self]
  · simp only [Device.poll, if_neg h, and_self]

end Console

end LectureMachine
