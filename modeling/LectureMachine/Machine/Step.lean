import LectureMachine.Machine.Execute

/-!
# Steps

In a step the machine fetches the instruction at the instruction pointer, carries it out and goes on
to the next one. It does not go on when it halts or is blocked. The word that comes next is shown
before it is fetched; it is looked up only if someone is watching the machine.
-/

namespace LectureMachine

variable {δ : Type} [Device δ]

namespace Machine

/-- Fetches the next instruction and carries it out. -/
def executeCurrent : Transition (Machine δ) Unit := do
  onCore Core.loadInstruction
  (← get).core.ir.execute

/-- Stops for good because of a fault. -/
def haltWith (f : Fault) : Transition (Machine δ) Unit :=
  modify ({ · with
    errorMessage := some f.message, fault := some f, blocked := false, halted := true })

/-- The instruction word that would be fetched next. -/
def nextWord (m : Machine δ) : Option InstructionWord :=
  match m.core.memory.peek m.core.ip 4 with
  | .ok word => some (word.setWidth 32)
  | .error _ => none

/-- Shows the word that comes next, if someone is watching. -/
def preview (watched : Bool) : Transition (Machine δ) Unit := do
  if watched then
    Transition.perform (.machine (.next (← get).nextWord))

/-- Shows what a step has led to and goes on to the next instruction if it can. -/
def advanceUnder (watched : Bool) : Transition (Machine δ) Status := do
  let m ← get
  if m.halted then
    Transition.perform (.machine (.halt m.exitCode (m.errorMessage.map Complaint.mk)))
    return .halted
  else if m.blocked then
    Transition.perform (.machine .block)
    return .blocked
  else
    onCore Core.incrementIp
    modify fun m => { m with steps := m.steps + 1 }
    preview watched
    return .running

/-- Takes a step. A machine that has halted stays as it is. -/
def stepUnder (watched : Bool) : Transition (Machine δ) Status := do
  if (← get).halted then
    return .halted
  else
    match ← Transition.attempt executeCurrent with
    | .ok () => pure ()
    | .error f => haltWith f
    advanceUnder watched

/-- Goes on, with someone watching. -/
def advance : Transition (Machine δ) Status := advanceUnder true

/-- Takes a step, with someone watching. -/
def step : Transition (Machine δ) Status := stepUnder true

/-- Puts everything back to how it was when switched on. -/
def reset : Transition (Machine δ) Unit := do
  onCore Core.reset
  onDevice Device.restart
  modify ({ · with
    halted := false, blocked := false, exitCode := 0, errorMessage := none, fault := none,
    steps := 0 })
  Transition.perform (.machine .reset)

end Machine

end LectureMachine
