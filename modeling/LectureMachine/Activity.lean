import LectureMachine.Fault

/-!
# Activity

What the machine does while it works, as an onlooker sees it: accesses to registers, to memory and
to the device, and what happens to the machine as a whole.
-/

namespace LectureMachine

/-- An access to the register file. -/
inductive RegisterEvent
  | read (register : Register) (value : Word)
  /-- The value is the one that the register then holds. -/
  | write (register : Register) (value : Word)
  | reset
  deriving DecidableEq, Repr

/-- An access to memory. -/
inductive MemoryEvent
  | read (address : Word) (width : Nat) (value : Word)
  /-- The value is the whole word that was offered, of which `width` bytes are stored. -/
  | write (address : Word) (width : Nat) (value : Word)
  | load (program : List (InstructionWord))
  | reset
  deriving DecidableEq, Repr

/-- A request to the device, with its answer. -/
inductive DeviceEvent
  | put (byte : Byte)
  | get (byte : Byte)
  | poll (ready : Bool)
  | reset
  deriving DecidableEq, Repr

/-- What the user is told about the fault that stopped a machine. -/
structure Complaint where
  message : String
  deriving DecidableEq, Repr

/-- Something that happens to the machine as a whole. -/
inductive MachineEvent
  /-- The instruction word that comes next, or nothing if none can be fetched. -/
  | next (word : Option (InstructionWord))
  | halt (exitCode : Byte) (error : Option Complaint)
  | block
  | reset
  deriving DecidableEq, Repr

/-- One thing that the machine does. -/
inductive Activity
  | register (event : RegisterEvent)
  | memory (event : MemoryEvent)
  | device (event : DeviceEvent)
  | machine (event : MachineEvent)
  deriving DecidableEq, Repr

end LectureMachine
