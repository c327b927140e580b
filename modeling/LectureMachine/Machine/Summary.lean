import LectureMachine.Machine
import LectureMachine.Device.Console
import LectureMachine.Observer

/-!
# Summaries

One-line descriptions of the parts of a machine, for diagnosis.
-/

namespace LectureMachine

variable {δ ε : Type}

/-- The flags, each by its name. -/
def Flags.summary (flags : Flags) : String :=
  s!"Flags \x7b zf: {flags.zero}, cf: {flags.carry}, of: {flags.overflow}, sf: {flags.sign} \x7d"

/-- The flags, and how many observers look at the registers. -/
def Alu.summary (alu : Alu) (observers : Observers ε) : String :=
  s!"Alu \x7b flags: {alu.flags.summary}, observers: {observers.registers.length}, .. \x7d"

/-- How many pages were written to, and how many observers look at them. -/
def Memory.summary (m : Memory) (observers : Observers ε) : String :=
  s!"VirtualMemory \x7b pages: {m.pageCount}, observers: {observers.memory.length} \x7d"

/-- The parts of the core, and its place in the program. -/
def Core.summary (core : Core) (observers : Observers ε) : String :=
  s!"Core \x7b alu: {core.alu.summary observers}, memory: {core.memory.summary observers}, "
    ++ s!"ir: {core.ir.toNat}, ip: {core.ip.toNat}, jumped: {core.jumped} \x7d"

/-- The core, and how far the machine has come. -/
def Machine.summary (m : Machine δ) (observers : Observers ε) : String :=
  let message := match m.errorMessage with
    | some message => s!"Some(\"{message}\")"
    | none => "None"
  s!"Machine \x7b core: {m.core.summary observers}, halted: {m.halted}, blocked: {m.blocked}, "
    ++ s!"exit_code: {m.exitCode.toNat}, error_message: {message}, steps: {m.steps}, .. \x7d"

/-- What a console still has to hand out. -/
def Console.summary (c : Console) : String :=
  let pending := ", ".intercalate (c.pending.map fun b => s!"{b.toNat}")
  s!"ConsoleIo \x7b pending: [{pending}], eof: {c.closed}, .. \x7d"

end LectureMachine
