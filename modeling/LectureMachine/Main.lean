import LectureMachine.CommandLine.Job

/-!
# The program

Reads the files that a call names and runs the job on the standard streams, a step at a time, so
that what is written is shown before anything is read.
-/

namespace LectureMachine.Program

/-- What is found under the name of a file. -/
def load (path : String) : IO Stored := do
  try
    let bytes ← IO.FS.readBinFile path
    return .file (bytes.toList.map (·.toBitVec))
  catch
    | .noFileOrDirectory .. => return .missing
    | _ => return .unreadable

/-- Writes bytes and shows them at once. -/
def display (output : IO.FS.Stream) (bytes : List Byte) : IO Unit := do
  unless bytes.isEmpty do
    output.write ⟨(bytes.map UInt8.ofBitVec).toArray⟩
    output.flush

/-- Logs what was done. -/
def log (trace : IO.FS.Stream) (job : Job) (done : List Activity) : IO Unit := do
  for line in job.observers.log done do
    trace.putStrLn line.text

/-- Reads the keys of a line, with its end. -/
partial def readKeys (input : IO.FS.Stream) (line : List Byte) : IO (List Byte) := do
  match (← input.read 1).toList with
  | [] => return line.reverse
  | b :: _ =>
    let line := b.toBitVec :: line
    if b.toBitVec = newline then return line.reverse else readKeys input line

/-- Steps a job to its end. -/
partial def drive (input output trace : IO.FS.Stream) (job : Job) : IO Report := do
  if job.wantsKeys then
    display output job.machine.device.terminal.heldBack.toList
    let job := { job with machine.device.terminal.heldBack := #[] }
    let keys ← readKeys input []
    proceed (job.typeKeys keys)
  else proceed job
where
  /-- Takes a step and goes on. -/
  proceed (job : Job) : IO Report := do
    let (report?, job, done) := job.step
    log trace job done
    let (shown, job) := job.takeShown
    display output shown
    match report? with
    | some report =>
      display output job.machine.device.terminal.heldBack.toList
      return report
    | none => drive input output trace job

/-- Tells the user about a failure. -/
def complain (errors : IO.FS.Stream) (report : Report) : IO Unit := do
  if let some error := report.error then
    errors.putStrLn s!"Error: {error}"
    if let some cause := report.cause then
      errors.putStrLn s!"\nCaused by:\n    {cause}"

/-- Performs a call of the program. -/
def perform (arguments : Arguments) : IO Report := do
  let config ← load arguments.config
  let image ← load arguments.image
  let environment ← IO.getEnv "RUST_LOG"
  let logging : Logging := { reader := LogFilter.reader, environment }
  let console : Console := { keyboard := { keys := [] } }
  match Job.prepare logging arguments config image console with
  | .error report => return report
  | .ok job =>
    let trace ← IO.getStderr
    log trace job job.loading
    drive (← IO.getStdin) (← IO.getStdout) trace job

end LectureMachine.Program

open LectureMachine in
/-- Runs a program image on the console. -/
def main (arguments : List String) : IO UInt32 := do
  match CommandLine.parse arguments with
  | .error .help =>
    IO.print CommandLine.helpText
    return 0
  | .error .usage =>
    IO.eprint CommandLine.helpText
    return 2
  | .ok arguments =>
    let report ← Program.perform arguments
    Program.complain (← IO.getStderr) report
    return report.exitCode.toNat.toUInt32
