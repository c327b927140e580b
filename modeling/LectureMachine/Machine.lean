import LectureMachine.Core
import LectureMachine.Device

/-!
# The machine

A core with a device. A machine runs until it halts: on its own account, with an exit code, or
because of a fault. In between it can be blocked, waiting for input.
-/

namespace LectureMachine

variable {δ α : Type}

/-- A core, a device and how far the machine has come. -/
structure Machine (δ : Type) where
  core : Core := {}
  device : δ
  halted : Bool := false
  /-- The last instruction found no input and has to be tried again. -/
  blocked : Bool := false
  exitCode : Byte := 0
  /-- What the user is told about the fault that stopped the machine. -/
  errorMessage : Option String := none
  /-- What stopped the machine, unless it halted on its own account. -/
  fault : Option Fault := none
  /-- The number of instructions that were completed and followed by another. It is counted without
  a bound; a counter of 64 bits would be at its end after 2 ^ 64 of them. -/
  steps : Nat := 0

/-- What the machine is doing. -/
inductive Status
  | running
  | blocked
  | halted
  deriving DecidableEq, Repr

namespace Machine

/-- A machine as it is when switched on. -/
def new (device : δ) : Machine δ := { device }

/-- What the machine is doing. -/
def status (m : Machine δ) : Status :=
  if m.halted then .halted else if m.blocked then .blocked else .running

/-- Works on the core. -/
def onCore (t : Transition Core α) : Transition (Machine δ) α :=
  t.within fun
    | ⟨core, device, halted, blocked, exitCode, errorMessage, fault, steps⟩ =>
      (core, fun core =>
        ⟨core, device, halted, blocked, exitCode, errorMessage, fault, steps⟩)

/-- Works on the arithmetic unit. -/
def onAlu (t : Transition Alu α) : Transition (Machine δ) α := onCore (Core.onAlu t)

/-- Works on the memory. -/
def onMemory (t : Transition Memory α) : Transition (Machine δ) α := onCore (Core.onMemory t)

/-- Works on the device. -/
def onDevice (t : Transition δ α) : Transition (Machine δ) α :=
  t.within fun
    | ⟨core, device, halted, blocked, exitCode, errorMessage, fault, steps⟩ =>
      (device, fun device =>
        ⟨core, device, halted, blocked, exitCode, errorMessage, fault, steps⟩)

@[simp] theorem onCore_apply (t : Transition Core α) (m : Machine δ) :
    onCore t m =
      ⟨(t m.core).result, { m with core := (t m.core).state }, (t m.core).activity⟩ := rfl

@[simp] theorem onAlu_apply (t : Transition Alu α) (m : Machine δ) :
    onAlu t m =
      ⟨(t m.core.alu).result, { m with core.alu := (t m.core.alu).state },
        (t m.core.alu).activity⟩ := rfl

@[simp] theorem onDevice_apply (t : Transition δ α) (m : Machine δ) :
    onDevice t m =
      ⟨(t m.device).result, { m with device := (t m.device).state }, (t m.device).activity⟩ := rfl

/-- Puts a program at address 0. -/
def loadProgram (program : List InstructionWord) : Transition (Machine δ) Unit :=
  onMemory (Memory.loadProgram program)

end Machine

/-! ### Talking to the device -/

namespace Device

variable [Device δ]

/-- Writes a byte and is seen doing so. -/
def emit (b : Byte) : Transition δ Unit := do
  modify (put b)
  Transition.perform (.device (.put b))

/-- Takes a byte and is seen doing so. -/
def take : Transition δ Byte := do
  let b ← modifyGet get
  Transition.perform (.device (.get b))
  return b

/-- Asks for a byte and is seen doing so. -/
def ask : Transition δ Bool := do
  let ready ← modifyGet poll
  Transition.perform (.device (.poll ready))
  return ready

/-- Tells the device about a reset and is seen doing so. -/
def restart : Transition δ Unit := do
  modify reset
  Transition.perform (.device .reset)

@[simp] theorem emit_apply (b : Byte) (d : δ) :
    emit b d = ⟨.ok (), put b d, [.device (.put b)]⟩ := rfl

@[simp] theorem take_apply (d : δ) :
    take d = ⟨.ok (get d).1, (get d).2, [.device (.get (get d).1)]⟩ := rfl

@[simp] theorem ask_apply (d : δ) :
    ask d = ⟨.ok (poll d).1, (poll d).2, [.device (.poll (poll d).1)]⟩ := rfl

end Device

end LectureMachine
