import LectureMachine.Alu
import LectureMachine.Memory

/-!
# The core

The core joins the arithmetic unit and the memory and keeps the instruction pointer. It moves values
between registers and memory, and it jumps.
-/

namespace LectureMachine

/-- What the flags have to say for a jump to be taken. -/
inductive Condition
  | always
  | zero
  | notZero
  | less
  | greaterEqual
  | lessEqual
  | greater
  | below
  | aboveEqual
  | belowEqual
  | above
  deriving DecidableEq, Repr

/-- Whether the flags meet a condition. After a comparison `less` and its kind speak of signed
numbers, `below` and its kind of unsigned ones. -/
def Condition.holds (c : Condition) (flags : Flags) : Bool :=
  match c with
  | .always => true
  | .zero => flags.zero
  | .notZero => !flags.zero
  | .less => flags.sign != flags.overflow
  | .greaterEqual => flags.sign == flags.overflow
  | .lessEqual => flags.zero || flags.sign != flags.overflow
  | .greater => !flags.zero && flags.sign == flags.overflow
  | .below => flags.carry
  | .aboveEqual => !flags.carry
  | .belowEqual => flags.carry || flags.zero
  | .above => !flags.carry && !flags.zero

/-- The arithmetic unit, the memory and the place in the program. -/
structure Core where
  alu : Alu := {}
  memory : Memory := {}
  /-- The instruction word fetched last. -/
  ir : InstructionWord := 0
  /-- The address of the current instruction. -/
  ip : Word := 0
  /-- A jump was made, so that the instruction pointer need not advance. -/
  jumped : Bool := false

namespace Core

/-- Works on the arithmetic unit. -/
def onAlu {α : Type} (t : Transition Alu α) : Transition Core α :=
  t.within fun | ⟨alu, memory, ir, ip, jumped⟩ => (alu, fun alu => ⟨alu, memory, ir, ip, jumped⟩)

/-- Works on the memory. -/
def onMemory {α : Type} (t : Transition Memory α) : Transition Core α :=
  t.within fun
    | ⟨alu, memory, ir, ip, jumped⟩ => (memory, fun memory => ⟨alu, memory, ir, ip, jumped⟩)

@[simp] theorem onAlu_apply {α : Type} (t : Transition Alu α) (core : Core) :
    onAlu t core =
      ⟨(t core.alu).result, { core with alu := (t core.alu).state }, (t core.alu).activity⟩ := rfl

@[simp] theorem onMemory_apply {α : Type} (t : Transition Memory α) (core : Core) :
    onMemory t core =
      ⟨(t core.memory).result, { core with memory := (t core.memory).state },
        (t core.memory).activity⟩ := rfl

/-- Puts everything back to how it was at first. -/
def reset : Transition Core Unit := do
  modify ({ · with ir := 0, ip := 0, jumped := false })
  onAlu Alu.reset
  onMemory Memory.reset

/-- Fetches the instruction word at the instruction pointer. -/
def loadInstruction : Transition Core Unit := do
  let word ← onMemory (Memory.read (← get).ip 4)
  modify ({ · with ir := word.setWidth 32 })

/-- Goes on to the next instruction, unless a jump has already gone elsewhere. -/
def incrementIp : Transition Core Unit :=
  modify fun core =>
    if core.jumped then { core with jumped := false } else { core with ip := core.ip + 4 }

/-! ### Fetching and storing -/

/-- A value moved up by `scale` bytes, modulo the eight bytes of a word. -/
def scaled (index : Word) (scale : Nat) : Word := index <<< (8 * scale % 64)

/-- Fetches a value, with its sign or without, into a register. -/
def fetch (address : Word) (width : Nat) (signed : Bool) (r : Register) : Transition Core Unit := do
  let v ← onMemory (Memory.read address width)
  onAlu (Alu.write r (if signed then v.extendSign width else v))

/-- Fetches into Z from the address in X plus the scaled index in Y. -/
def fetchScaled (field : OperandField) (width scale : Nat) (signed : Bool) :
    Transition Core Unit := do
  let base ← onAlu (Alu.read field.rx)
  let index ← onAlu (Alu.read field.ry)
  fetch (base + scaled index scale) width signed field.rz

/-- Fetches into Z from the address in Y plus the signed number X. -/
def fetchDisplaced (field : OperandField) (width : Nat) (signed : Bool) :
    Transition Core Unit := do
  let base ← onAlu (Alu.read field.ry)
  fetch (field.sx + base) width signed field.rz

/-- Stores X at the address in Y plus the scaled index in Z. -/
def storeScaled (field : OperandField) (width scale : Nat) : Transition Core Unit := do
  let base ← onAlu (Alu.read field.ry)
  let index ← onAlu (Alu.read field.rz)
  let v ← onAlu (Alu.read field.rx)
  onMemory (Memory.write (base + scaled index scale) width v)

/-- Stores X at the address in Z plus the signed number Y. -/
def storeDisplaced (field : OperandField) (width : Nat) : Transition Core Unit := do
  let base ← onAlu (Alu.read field.rz)
  let v ← onAlu (Alu.read field.rx)
  onMemory (Memory.write (field.sy + base) width v)

/-! ### Jumps -/

/-- Leaves the address of the next instruction in Y and then jumps to the address in X. -/
def jumpAbsolute (field : OperandField) : Transition Core Unit := do
  onAlu (Alu.write field.ry ((← get).ip + 4))
  let target ← onAlu (Alu.read field.rx)
  modify ({ · with ip := target, jumped := true })

/-- Jumps over as many instructions as the signed number XYZ says. -/
def jumpRelative (field : OperandField) : Transition Core Unit :=
  modify fun core => { core with ip := core.ip + (field.sxyz <<< 2), jumped := true }

/-- Whether the flags meet a condition. -/
def holds (core : Core) (c : Condition) : Bool := c.holds core.alu.flags

/-- Makes a relative jump if the condition holds. -/
def jumpIf (field : OperandField) (c : Condition) : Transition Core Unit := do
  if (← get).holds c then jumpRelative field

end Core

end LectureMachine
