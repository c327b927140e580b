import LectureMachine.Machine.Step

/-!
# Runs

A run takes one step after the other: a given number of them at most, or as many as the machine
needs to halt. A machine need never halt, so the runs without a limit are given a number of steps
after which they are given up. All the steps of a run are taken under the same eyes: someone is
watching the machine, or nobody is.
-/

namespace LectureMachine

variable {δ : Type} [Device δ]

/-- Why a run ended without a fault. -/
inductive Stop
  | halted (exitCode : Byte)
  | blocked
  | stepLimit
  deriving DecidableEq, Repr

namespace Machine

/-- How a machine that has halted came to do so. -/
def verdict (m : Machine δ) : Except Fault Byte :=
  match m.fault with
  | some f => .error f
  | none => .ok m.exitCode

/-- Goes on with a run in which `done` was done before, the latest first. -/
def runOn (watched : Bool) (done : List Activity) : Nat → Transition (Machine δ) Stop
  | 0, m => ⟨.ok .stepLimit, m, done.reverse⟩
  | n + 1, m =>
    match stepUnder watched m with
    | ⟨result, m, more⟩ =>
      let done := more.reverseAux done
      match result with
      | .ok .running => runOn watched done n m
      | .ok .blocked => ⟨.ok .blocked, m, done.reverse⟩
      | .ok .halted => ⟨m.verdict.map .halted, m, done.reverse⟩
      | .error f => ⟨.error f, m, done.reverse⟩

/-- Takes steps until the machine halts or is blocked, but no more than `limit`. -/
def runForUnder (watched : Bool) (limit : Nat) : Transition (Machine δ) Stop :=
  runOn watched [] limit

theorem runOn_eq_after (watched : Bool) (done : List Activity) (n : Nat) (m : Machine δ) :
    runOn watched done n m = (runForUnder watched n m).after done.reverse := by
  induction n generalizing done m with
  | zero => simp [runOn, runForUnder]
  | succ n ih =>
    rcases h : stepUnder watched m with ⟨f | status, m', more⟩
    · simp [runOn, runForUnder, h, List.reverseAux_eq]
    · cases status <;>
        simp [runOn, runForUnder, h, List.reverseAux_eq, ih (more.reverse ++ done), ih more.reverse]

@[simp] theorem runForUnder_zero (watched : Bool) (m : Machine δ) :
    runForUnder watched 0 m = ⟨.ok .stepLimit, m, []⟩ := rfl

/-- A run is a step, and then a shorter run if the machine goes on. -/
theorem runForUnder_succ (watched : Bool) (n : Nat) (m : Machine δ) :
    runForUnder watched (n + 1) m =
      match stepUnder watched m with
      | ⟨.ok .running, m, done⟩ => (runForUnder watched n m).after done
      | ⟨.ok .blocked, m, done⟩ => ⟨.ok .blocked, m, done⟩
      | ⟨.ok .halted, m, done⟩ => ⟨m.verdict.map .halted, m, done⟩
      | ⟨.error f, m, done⟩ => ⟨.error f, m, done⟩ := by
  rcases h : stepUnder watched m with ⟨f | status, m', done⟩
  · simp [runForUnder, runOn, h, List.reverseAux_eq]
  · cases status <;>
      simp [runForUnder, runOn, h, List.reverseAux_eq, runOn_eq_after watched done.reverse]

/-- Takes steps until the machine halts or is blocked; gives up after `patience` steps. -/
def runToStopUnder? (watched : Bool) (patience : Nat) (m : Machine δ) :
    Option (Outcome (Machine δ) Stop) :=
  match runForUnder watched patience m with
  | ⟨.ok .stepLimit, _, _⟩ => none
  | outcome => some outcome

/-- Goes on with a run to the end in which `done` was done before, the latest first. -/
def runOnToHalt? (watched : Bool) (done : List Activity) :
    Nat → Machine δ → Option (Outcome (Machine δ) Byte)
  | 0, m => if m.halted then some ⟨m.verdict, m, done.reverse⟩ else none
  | n + 1, m =>
    if m.halted then some ⟨m.verdict, m, done.reverse⟩
    else
      match stepUnder watched m with
      | ⟨_, m, more⟩ => runOnToHalt? watched (more.reverseAux done) n m

/-- Takes steps until the machine halts, also while it is blocked; gives up after `patience`
steps. -/
def runToHaltUnder? (watched : Bool) (patience : Nat) (m : Machine δ) :
    Option (Outcome (Machine δ) Byte) :=
  runOnToHalt? watched [] patience m

/-! ### Runs with someone watching -/

/-- Takes steps until the machine halts or is blocked, but no more than `limit`. -/
def runFor (limit : Nat) : Transition (Machine δ) Stop := runForUnder true limit

@[simp] theorem runFor_zero (m : Machine δ) : runFor 0 m = ⟨.ok .stepLimit, m, []⟩ := rfl

theorem runFor_succ (n : Nat) (m : Machine δ) :
    runFor (n + 1) m =
      match step m with
      | ⟨.ok .running, m, done⟩ => (runFor n m).after done
      | ⟨.ok .blocked, m, done⟩ => ⟨.ok .blocked, m, done⟩
      | ⟨.ok .halted, m, done⟩ => ⟨m.verdict.map .halted, m, done⟩
      | ⟨.error f, m, done⟩ => ⟨.error f, m, done⟩ :=
  runForUnder_succ true n m

/-- Takes steps until the machine halts or is blocked; gives up after `patience` steps. -/
def runToStop? (patience : Nat) (m : Machine δ) : Option (Outcome (Machine δ) Stop) :=
  runToStopUnder? true patience m

/-- Takes steps until the machine halts, also while it is blocked; gives up after `patience`
steps. -/
def runToHalt? (patience : Nat) (m : Machine δ) : Option (Outcome (Machine δ) Byte) :=
  runToHaltUnder? true patience m

end Machine

end LectureMachine
