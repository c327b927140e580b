import LectureMachine.CommandLine
import LectureMachine.CommandLine.Directory
import LectureMachine.Config.LogFilter
import LectureMachine.Config.Ron
import LectureMachine.Image.Text
import LectureMachine.Image.Binary
import LectureMachine.Machine.Run
import LectureMachine.Device.Console
import LectureMachine.Trace

/-!
# Jobs

A call of the program names a configuration and an image. If both can be read, there is a job: a
machine with the image in its memory and a console as its device, which is to run for so many steps.
What comes of it is reported by an exit code and, if it failed, by a complaint.
-/

namespace LectureMachine

/-! ### Files -/

/-- The configuration in a file; a file that is missing stands for the defaults. -/
def Config.load (stored : Stored) : Except ConfigError Config :=
  if stored = .missing then .ok {}
  else
    match stored.text? with
    | none => .error .unreadable
    | some source =>
      match Config.ofRon? source with
      | some config => .ok config
      | none => .error .malformed

/-- The image in a file. -/
def readImage (stored : Stored) (format : ImageFormat) : Except ImageError (List InstructionWord) :=
  match format, stored with
  | .binary, .file bytes => BinaryImage.parse bytes
  | .binary, _ => .error .unreadable
  | .text, stored =>
    match stored.text? with
    | some source => TextImage.parse source
    | none => .error .unreadable

/-! ### Reports -/

/-- How a call of the program ended. -/
structure Report where
  exitCode : Byte
  /-- What went wrong. -/
  error : Option String := none
  /-- Why it went wrong. -/
  cause : Option String := none
  deriving DecidableEq, Repr

/-- Something went wrong. -/
def Report.failure (error : String) (cause : Option String) : Report :=
  { exitCode := 1, error := some error, cause }

/-- The program broke down, and nothing else is told about it. -/
def Report.breakdown : Report := { exitCode := 101 }

/-- The report on a run. -/
def Report.ofOutcome {δ : Type} : Outcome (Machine δ) Stop → Report
  | ⟨.ok (.halted code), _, _⟩ => { exitCode := code }
  | ⟨.ok .blocked, m, _⟩ =>
    .failure s!"program is waiting for input at 0x{Numeral.hex m.core.ip.toNat} but stdin is closed"
      none
  | ⟨.ok .stepLimit, m, _⟩ => .failure s!"stopped after {m.steps} steps without halting" none
  | ⟨.error f, _, _⟩ => .failure f.message none

/-! ### Jobs -/

/-- A machine with a console, and how it is to run. -/
structure Job where
  machine : Machine Console
  /-- The number of steps after which the run is stopped, if it is stopped. -/
  limit : Option Nat
  observers : Observers TraceLine
  /-- What was done to load the program. -/
  loading : List Activity := []

/-- The observers of the channels that are traced. -/
def TraceConfig.observers (c : TraceConfig) : Observers TraceLine where
  registers := if c.registers then [RegisterEvent.trace] else []
  memory := if c.memory then [MemoryEvent.trace] else []
  machine := if c.instructions then [MachineEvent.trace] else []

/-- The settings that hold for a call: what is said on the command line comes before what is said in
the configuration. -/
def Arguments.override (arguments : Arguments) (config : Config) : Config :=
  { config with
    trace := if arguments.trace then .all else config.trace
    maxSteps := arguments.maxSteps.or config.maxSteps }

namespace Job

/-- Prepares the job that a call asks for. -/
def prepare (logging : Logging) (arguments : Arguments) (config image : Stored)
    (console : Console) : Except Report Job := do
  let config ← (Config.load config).mapError fun e =>
    .failure s!"loading {arguments.config}" (some e.message)
  let config := arguments.override config
  if logging.breaksDown config.directives then throw .breakdown
  let format := if arguments.binary then .binary else .text
  let program ← (readImage image format).mapError fun e =>
    .failure s!"loading {arguments.image}" (some e.message)
  let loaded := Machine.loadProgram program (Machine.new console)
  return {
    machine := loaded.state
    limit := config.maxSteps.map (·.toNat)
    observers := config.trace.observers
    loading := loaded.activity }

/-- Someone is watching the machine. -/
def watched (job : Job) : Bool := !job.observers.machine.isEmpty

/-- Takes a step. Gives the report if the job is done. -/
def step (job : Job) : Option Report × Job × List Activity :=
  match job.limit with
  | some 0 => (some (.ofOutcome ⟨.ok .stepLimit, job.machine, []⟩), job, [])
  | limit =>
    match Machine.runForUnder job.watched 1 job.machine with
    | ⟨.ok .stepLimit, machine, done⟩ =>
      (none, { job with machine, limit := limit.map (· - 1) }, done)
    | ⟨result, machine, done⟩ =>
      (some (.ofOutcome ⟨result, machine, done⟩), { job with machine }, done)

/-- Whether the next step looks for keys that have not been typed yet. -/
def wantsKeys (job : Job) : Bool :=
  job.machine.device.isWaiting
    && job.machine.nextWord.bind (fun word => Instruction.ofOpcode? word.opcode) == some .getc

/-- More keys are typed. -/
def typeKeys (job : Job) (keys : List Byte) : Job :=
  { job with machine.device.keyboard := job.machine.device.keyboard.typeKeys keys }

/-- Takes away what the terminal shows, and what has been seen of it. -/
def takeShown (job : Job) : List Byte × Job :=
  (job.machine.device.terminal.shown.toList,
    { job with
      machine.device.terminal.shown := #[]
      machine.device.keyboard.seen := [] })

/-- Does a job; one without a limit is given up after `patience` steps. -/
def run? (job : Job) (patience : Nat) : Option (Outcome (Machine Console) Stop) :=
  match job.limit with
  | some limit => some (job.machine.runForUnder job.watched limit)
  | none => job.machine.runToStopUnder? job.watched patience

end Job

/-- What a call of the program writes, and how it ends. -/
structure Performance where
  written : List Byte
  report : Report
  deriving DecidableEq, Repr

/-- Performs a call of the program in a directory, with the keys that will be typed. A run without a
limit is given up after `patience` steps. -/
def performWith? (logging : Logging) (arguments : Arguments) (directory : String → Stored)
    (keys : List Byte) (patience : Nat) : Option Performance :=
  let console : Console := { keyboard := { keys } }
  match Job.prepare logging arguments (directory arguments.config) (directory arguments.image)
    console with
  | .error report => some { written := [], report }
  | .ok job =>
    (job.run? patience).map fun outcome =>
      { written := outcome.state.device.terminal.written, report := .ofOutcome outcome }

/-- Performs a call of the program in an environment that names no log filter. -/
def perform? (arguments : Arguments) (directory : String → Stored) (keys : List Byte)
    (patience : Nat) : Option Performance :=
  performWith? { reader := LogFilter.reader } arguments directory keys patience

end LectureMachine
