import LectureMachine.Core

/-!
# Instructions

The operations that an opcode can stand for. Where the operands come from is said by the operand
field of the instruction word; the operation says how to read it.
-/

namespace LectureMachine

/-- How the first operand of an operation is read. -/
inductive Operand
  /-- The value of the register that X names. -/
  | register
  /-- The byte X itself. -/
  | immediate
  deriving DecidableEq, Repr

/-- How the address of a value in memory is found. -/
inductive Addressing
  /-- A signed byte and a register. -/
  | displaced
  /-- A register and a second register moved up by `scale` bytes. -/
  | scaled (scale : Nat)
  deriving DecidableEq, Repr

/-- An operation of the machine. -/
inductive Instruction
  | halt (code : Operand)
  | add (x : Operand)
  | subtract (x : Operand)
  | multiply (x : Operand)
  | divideUnsigned (x : Operand)
  | divideSigned (x : Operand)
  | jumpAbsolute
  | jumpRelative (condition : Condition)
  | bitOr
  | bitAnd
  | bitNot
  | shiftLeft (amount : Operand)
  | shiftRight (amount : Operand)
  | shiftRightSigned (amount : Operand)
  | loadUnsigned
  | loadSigned
  | loadShifted
  | getc
  | putc (byte : Operand)
  | nop
  | fetch (width : Nat) (signed : Bool) (addressing : Addressing)
  | store (width : Nat) (addressing : Addressing)
  deriving DecidableEq, Repr

end LectureMachine
