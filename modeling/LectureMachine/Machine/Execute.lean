import LectureMachine.Machine
import LectureMachine.Instruction.Opcode

/-!
# Carrying out an instruction

What each operation does to the machine, given the operand field of its instruction word.
-/

namespace LectureMachine

variable {δ : Type}

/-- The first operand, as a word; an immediate operand is what `immediate` makes of the field. -/
def Operand.value (x : Operand) (immediate : OperandField → Word) (field : OperandField) :
    Transition Alu Word :=
  match x with
  | .register => Alu.read field.rx
  | .immediate => pure (immediate field)

namespace Instruction

/-- Puts the result of an operation on the first operand and Y into Z. -/
def binary (x : Operand) (immediate : OperandField → Word)
    (operation : Word → Word → Register → Transition Alu Unit) (field : OperandField) :
    Transition Alu Unit := do
  let x ← x.value immediate field
  let y ← Alu.read field.ry
  operation x y field.rz

/-- Reads a byte into X. If there is none, the machine is blocked. -/
def executeGetc [Device δ] (field : OperandField) : Transition (Machine δ) Unit := do
  if ← Machine.onDevice Device.ask then
    let b ← Machine.onDevice Device.take
    Machine.onAlu (Alu.write field.rx (b.setWidth 64))
    modify ({ · with blocked := false })
  else
    modify ({ · with blocked := true })

/-- Carries out an operation. -/
def execute [Device δ] (i : Instruction) (field : OperandField) : Transition (Machine δ) Unit :=
  match i with
  | .halt code => do
    let code ← Machine.onAlu (code.value (·.ux) field)
    modify ({ · with exitCode := code.setWidth 8, halted := true })
  | .add x => Machine.onAlu (binary x (·.ux) Alu.add field)
  | .subtract x => Machine.onAlu (binary x (·.ux) Alu.subtract field)
  | .multiply x => Machine.onAlu (binary x (·.sx) Alu.multiply field)
  | .divideUnsigned x => Machine.onAlu do
    Alu.divideUnsigned (← x.value (·.ux) field) field.ry field.rz
  | .divideSigned x => Machine.onAlu (binary x (·.sx) Alu.divideSigned field)
  | .jumpAbsolute => Machine.onCore (Core.jumpAbsolute field)
  | .jumpRelative condition => Machine.onCore (Core.jumpIf field condition)
  | .bitOr => Machine.onAlu (Alu.bitOr field)
  | .bitAnd => Machine.onAlu (Alu.bitAnd field)
  | .bitNot => Machine.onAlu (Alu.bitNot field)
  | .shiftLeft amount => Machine.onAlu (binary amount (·.ux) Alu.shiftLeft field)
  | .shiftRight amount => Machine.onAlu (binary amount (·.ux) Alu.shiftRight field)
  | .shiftRightSigned amount => Machine.onAlu (binary amount (·.ux) Alu.shiftRightSigned field)
  | .loadUnsigned => Machine.onAlu (Alu.loadUnsigned field)
  | .loadSigned => Machine.onAlu (Alu.loadSigned field)
  | .loadShifted => Machine.onAlu (Alu.loadShifted field)
  | .getc => executeGetc field
  | .putc byte => do
    let b ← Machine.onAlu (byte.value (·.ux) field)
    Machine.onDevice (Device.emit (b.setWidth 8))
  | .nop => pure ()
  | .fetch width signed .displaced => Machine.onCore (Core.fetchDisplaced field width signed)
  | .fetch width signed (.scaled scale) =>
    Machine.onCore (Core.fetchScaled field width scale signed)
  | .store width .displaced => Machine.onCore (Core.storeDisplaced field width)
  | .store width (.scaled scale) => Machine.onCore (Core.storeScaled field width scale)

end Instruction

namespace InstructionWord

/-- Carries out an instruction word, if its opcode is known. -/
def execute [Device δ] (word : InstructionWord) : Transition (Machine δ) Unit :=
  match Instruction.ofOpcode? word.opcode with
  | some i => i.execute word.field
  | none => Transition.fault (.illegalInstruction word.opcode)

end InstructionWord

end LectureMachine
