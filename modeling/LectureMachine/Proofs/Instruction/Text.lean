import Mathlib.Tactic.Lemma
import LectureMachine.Instruction.Assembly

/-!
# Assembly text

The text of an instruction with operands has a tab in it, between the mnemonic and the operands.
This alone tells it from the text of a word that is no instruction.
-/

namespace LectureMachine

namespace OperandFormat

/-- The mnemonic is parted from the operands by a tab. -/
lemma line_of_ne_none {format : OperandFormat} (h : format ≠ .none) (mnemonic : String)
    (field : OperandField) :
    format.line mnemonic field = mnemonic ++ "\t" ++ format.render field := by
  cases format with
  | none => exact absurd rfl h
  | _ => rfl

lemma tab_mem_line {format : OperandFormat} (h : format ≠ .none) (mnemonic : String)
    (field : OperandField) : '\t' ∈ (format.line mnemonic field).toList := by
  rw [line_of_ne_none h]
  simp

end OperandFormat

/-- Only the operation that does nothing has no operands. -/
lemma Instruction.operandFormat_eq_none_iff {i : Instruction} :
    i.operandFormat = .none ↔ i = .nop := by
  constructor
  · intro h
    cases i with
    | nop => rfl
    | fetch width signed addressing => cases addressing <;> cases h
    | store width addressing => cases addressing <;> cases h
    | halt x | add x | subtract x | multiply x | divideUnsigned x | divideSigned x
    | shiftLeft x | shiftRight x | shiftRightSigned x | putc x => cases x <;> cases h
    | _ => cases h
  · rintro rfl
    rfl

namespace InstructionWord

variable {word : InstructionWord}

lemma disassemble_of_some {i : Instruction} (h : Instruction.ofOpcode? word.opcode = some i) :
    word.disassemble = i.operandFormat.line i.mnemonic word.field := by
  unfold disassemble
  rw [h]

lemma disassemble_of_none (h : Instruction.ofOpcode? word.opcode = none) :
    word.disassemble = illegalInstructionText := by
  unfold disassemble
  rw [h]

/-- The text of an instruction is none that has no tab, unless it does nothing. -/
lemma disassemble_ne {i : Instruction} (h : Instruction.ofOpcode? word.opcode = some i)
    {text : String} (htab : '\t' ∉ text.toList) (hnop : text ≠ "nop") :
    word.disassemble ≠ text := by
  rw [disassemble_of_some h]
  rintro rfl
  by_cases hi : i.operandFormat = .none
  · obtain rfl := Instruction.operandFormat_eq_none_iff.mp hi
    exact hnop rfl
  · exact htab (OperandFormat.tab_mem_line hi _ _)

/-- The text says that a word is no instruction just if its opcode stands for none. -/
lemma disassemble_eq_illegalInstructionText_iff :
    word.disassemble = illegalInstructionText ↔ Instruction.ofOpcode? word.opcode = none := by
  constructor
  · intro h
    cases hi : Instruction.ofOpcode? word.opcode with
    | none => rfl
    | some i => exact absurd h (disassemble_ne hi (by decide) (by decide))
  · exact disassemble_of_none

/-- No text says that something is missing. -/
lemma disassemble_ne_notImplemented : word.disassemble ≠ "not implemented" := by
  cases hi : Instruction.ofOpcode? word.opcode with
  | none =>
    rw [disassemble_of_none hi]
    decide
  | some i => exact disassemble_ne hi (by decide) (by decide)

end InstructionWord

end LectureMachine
