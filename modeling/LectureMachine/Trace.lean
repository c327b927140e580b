import LectureMachine.Instruction.Assembly
import LectureMachine.Observer

/-!
# Trace

The lines in which the machine's activity is logged. Each channel has its own target; writing and
loading count as debugging output, reading as tracing output, and a halt through a fault as a
warning.
-/

namespace LectureMachine

/-- How important a line of the trace is. -/
inductive TraceLevel
  | warn
  | debug
  | trace
  deriving DecidableEq, Repr

/-- The name of a level. -/
def TraceLevel.name : TraceLevel → String
  | .warn => "WARN"
  | .debug => "DEBUG"
  | .trace => "TRACE"

/-- A line of the trace. -/
structure TraceLine where
  level : TraceLevel
  target : String
  message : String
  /-- Further values with their names. -/
  fields : List (String × String) := []
  deriving DecidableEq, Repr

namespace TraceLine

/-- The target of the register channel. -/
def registers : String := "ulm::registers"

/-- The target of the memory channel. -/
def memory : String := "ulm::memory"

/-- The target of the machine channel. -/
def instructions : String := "ulm::instructions"

/-- The text of a line. -/
def text (line : TraceLine) : String :=
  let fields := line.fields.map fun (name, value) => s!" {name}={value}"
  s!"{line.level.name} {line.target}: {line.message}{String.join fields}"

/-- The line for a register, an arrow and a value of 16 digits. -/
def ofRegister (level : TraceLevel) (r : Register) (arrow : String) (v : Word) : TraceLine :=
  { level, target := registers, message := s!"{r.name} {arrow} 0x{Numeral.hexPadded 16 v.toNat}" }

/-- The line for a place in memory, an arrow and a value. -/
def ofPlace (level : TraceLevel) (address : Word) (width : Nat) (arrow : String) (v : Word) :
    TraceLine :=
  { level, target := memory,
    message := s!"M[0x{Numeral.hex address.toNat}; {width}] {arrow} 0x{Numeral.hex v.toNat}" }

end TraceLine

/-- What is logged about the registers. -/
def RegisterEvent.trace : RegisterEvent → List TraceLine
  | .read r v => [.ofRegister .trace r "->" v]
  | .write r v => [.ofRegister .debug r "<-" v]
  | .reset => []

/-- What is logged about the memory. -/
def MemoryEvent.trace : MemoryEvent → List TraceLine
  | .read address width v => [.ofPlace .trace address width "->" v]
  | .write address width v => [.ofPlace .debug address width "<-" v]
  | .load program =>
    [{ level := .debug, target := TraceLine.memory, message := "program loaded",
       fields := [("words", s!"{program.length}")] }]
  | .reset => []

/-- What is logged about the machine. -/
def MachineEvent.trace : MachineEvent → List TraceLine
  | .next word =>
    [{ level := .debug, target := TraceLine.instructions,
       message := s!"{Numeral.hexPadded 6 (Preview.field word).raw.toNat}  {Preview.text word}" }]
  | .halt exitCode error =>
    let fields := [("exit_code", s!"{exitCode.toNat}")]
    match error with
    | some error =>
      [{ level := .warn, target := TraceLine.instructions, message := s!"halted: {error.message}",
         fields }]
    | none => [{ level := .debug, target := TraceLine.instructions, message := "halted", fields }]
  | .block =>
    [{ level := .trace, target := TraceLine.instructions, message := "waiting for input" }]
  | .reset => []

end LectureMachine
