import LectureMachine.Word
import LectureMachine.Numeral

/-!
# Faults

A fault stops the machine for good. Each says what was asked for and could not be done.
-/

namespace LectureMachine

/-- Why an instruction could not be carried out. -/
inductive Fault
  /-- No instruction has this opcode. -/
  | illegalInstruction (opcode : Byte)
  /-- The address is not a multiple of the width. -/
  | misaligned (address : Word) (width : Nat)
  /-- The access would run past the end of a page. -/
  | crossesPage (address : Word) (width : Nat)
  /-- The bus moves one to eight bytes at a time. -/
  | invalidWidth (width : Nat)
  /-- A divisor was zero. -/
  | divisionByZero
  /-- An operand field has 24 bits. -/
  | invalidField (value : BitVec 32)
  /-- A run of consecutive registers went past the last one. -/
  | registerOutOfRange (index : Nat)
  deriving DecidableEq, Repr

/-- What the user is told about a fault. -/
def Fault.message : Fault → String
  | .illegalInstruction opcode => s!"illegal instruction: 0x{Numeral.hexPadded 2 opcode.toNat}"
  | .misaligned address width =>
    s!"misaligned {width} byte access at address 0x{Numeral.hexPadded 16 address.toNat}"
  | .crossesPage address width =>
    s!"{width} byte access at address 0x{Numeral.hexPadded 16 address.toNat} "
      ++ "crosses a page boundary"
  | .invalidWidth width => s!"invalid access width {width}, expected 1 to 8 bytes"
  | .divisionByZero => "division by zero"
  | .invalidField value => s!"operation field 0x{Numeral.hex value.toNat} does not fit into 24 bits"
  | .registerOutOfRange index => s!"register index {index} is out of range"

end LectureMachine
