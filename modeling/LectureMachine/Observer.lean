import LectureMachine.Transition

/-!
# Observers

Observers watch what the machine does and write entries about it. There are four channels, one for
each kind of activity; the observers of a channel all see the same events, in the order in which
they were added. They only ever watch: an observed transition does what the transition does.
-/

namespace LectureMachine

variable {σ α β ε : Type}

/-- The observers of every channel, which write entries of type `ε`. -/
structure Observers (ε : Type) where
  registers : List (RegisterEvent → List ε) := []
  memory : List (MemoryEvent → List ε) := []
  device : List (DeviceEvent → List ε) := []
  machine : List (MachineEvent → List ε) := []

namespace Observers

/-- What the observers write about one thing that the machine does. -/
def entries (observers : Observers ε) : Activity → List ε
  | .register e => observers.registers.flatMap (· e)
  | .memory e => observers.memory.flatMap (· e)
  | .device e => observers.device.flatMap (· e)
  | .machine e => observers.machine.flatMap (· e)

/-- What the observers write about all that the machine does. -/
def log (observers : Observers ε) (done : List Activity) : List ε :=
  done.flatMap observers.entries

@[simp] theorem log_nil (observers : Observers ε) : observers.log [] = [] := rfl

theorem log_cons (observers : Observers ε) (a : Activity) (done : List Activity) :
    observers.log (a :: done) = observers.entries a ++ observers.log done := rfl

@[simp] theorem log_append (observers : Observers ε) (done more : List Activity) :
    observers.log (done ++ more) = observers.log done ++ observers.log more :=
  List.flatMap_append

/-- Adds an observer of the registers after those that are there. -/
def addRegisters (observers : Observers ε) (o : RegisterEvent → List ε) : Observers ε :=
  { observers with registers := observers.registers ++ [o] }

/-- Adds an observer of the memory after those that are there. -/
def addMemory (observers : Observers ε) (o : MemoryEvent → List ε) : Observers ε :=
  { observers with memory := observers.memory ++ [o] }

/-- Adds an observer of the machine after those that are there. -/
def addMachine (observers : Observers ε) (o : MachineEvent → List ε) : Observers ε :=
  { observers with machine := observers.machine ++ [o] }

end Observers

/-- A state with the observers that are attached to it. -/
structure Observed (σ ε : Type) where
  state : σ
  observers : Observers ε := {}

namespace Observed

/-- Makes a transition under observation. Gives its result, what is left, and the new entries. -/
def perform (o : Observed σ ε) (t : Transition σ α) : Except Fault α × Observed σ ε × List ε :=
  match t o.state with
  | ⟨result, state, done⟩ => (result, { o with state }, o.observers.log done)

end Observed

end LectureMachine
