import LectureMachine.Proofs.Machine.Operation
import LectureMachine.Proofs.Machine.Preview

/-!
# How a machine comes to its end

A machine halts because an instruction says so or because of a fault, and the observers of the
machine are told once, after everything else. Until then there is no fault and no exit code. From
then on nothing happens any more, whatever the host asks for.
-/

namespace LectureMachine

open Transition

/-! ### What observers are told -/

/-- All that an observer of the machine is told. -/
def machineEvents (done : List Activity) : List MachineEvent :=
  Observers.log { machine := [fun e => [e]] } done

@[simp] lemma machineEvents_append (done more : List Activity) :
    machineEvents (done ++ more) = machineEvents done ++ machineEvents more :=
  Observers.log_append ..

lemma machineEvents_of_isInner {done : List Activity} (h : ∀ a ∈ done, a.IsInner) :
    machineEvents done = [] := by
  apply List.flatMap_eq_nil_iff.mpr
  intro a ha
  have hinner := h a ha
  cases a with
  | machine e => cases hinner
  | _ => rfl

/-- The observers are told that the machine has halted. -/
def MachineEvent.IsHalt : MachineEvent → Prop
  | .halt _ _ => True
  | _ => False

namespace Machine

variable {δ : Type} [Device δ] {m : Machine δ} {done : List Activity}

omit [Device δ] in
/-- What the observers are told at the end of a step. -/
def report (m : Machine δ) : MachineEvent :=
  match m.status with
  | .running => .next m.nextWord
  | .blocked => .block
  | .halted => .halt m.exitCode (m.errorMessage.map Complaint.mk)

/-- At the end of a step the observers are told what has become of the machine. -/
lemma activity_step_eq (running : m.halted = false) :
    (step m).activity = (executeCurrent m).activity ++ [.machine (step m).state.report] := by
  rcases he : executeCurrent m with ⟨f | ⟨⟩, m', done⟩
  · rw [step_of_error running he]
    rfl
  · rw [step_of_ok running he, Outcome.activity_after, Outcome.state_after]
    congr
    cases halted' : m'.halted with
    | true =>
      rw [advance_of_halted halted']
      simp [report, status, halted']
    | false =>
      cases blocked : m'.blocked with
      | true =>
        rw [advance_of_blocked halted' blocked]
        simp [report, status, halted', blocked]
      | false =>
        rw [advance_of_running halted' blocked]
        simp [report, status, advanced, halted', blocked]

lemma machineEvents_step (running : m.halted = false) :
    machineEvents (step m).activity = [(step m).state.report] := by
  rw [activity_step_eq running, machineEvents_append,
    machineEvents_of_isInner (logs_executeCurrent.emits m)]
  rfl

omit [Device δ] in
lemma report_of_halted (halted : m.halted = true) :
    m.report = .halt m.exitCode (m.errorMessage.map Complaint.mk) := by
  simp [report, status, halted]

omit [Device δ] in
lemma not_isHalt_report (running : m.halted = false) : ¬ m.report.IsHalt := by
  cases blocked : m.blocked <;> simp [report, status, running, blocked, MachineEvent.IsHalt]

/-! ### Before the end and after it -/

/-- The last thing that the machine has done was to carry out an instruction that halts it, and the
exit code is the low byte of the operand. -/
def HaltedItself (done : List Activity) (m : Machine δ) : Prop :=
  ∃ (prior : List Activity) (before : Machine δ) (device : δ) (word : InstructionWord)
    (code : Operand), Operated prior before ∧ before.halted = false ∧ before.nextWord = some word ∧
    Instruction.ofOpcode? word.opcode = some (.halt code) ∧
    done = prior ++ (step before).activity ∧ m = { (step before).state with device } ∧
    m.exitCode = (code.eval (·.ux) word.field before.core.alu).setWidth 8

/-- Nothing has been said about an end of the machine. -/
structure IsUnderWay (done : List Activity) (m : Machine δ) : Prop where
  exitCode : m.exitCode = 0
  errorMessage : m.errorMessage = none
  fault : m.fault = none
  untold : ∀ e ∈ machineEvents done, ¬ e.IsHalt

/-- The machine has halted itself or has been stopped by a fault, the error message is that of the
fault, and the observers have been told of it, once and last of all. -/
structure HasEnded (done : List Activity) (m : Machine δ) : Prop where
  blocked : m.blocked = false
  cause : (m.fault = none ∧ HaltedItself done m) ∨ (m.fault ≠ none ∧ m.exitCode = 0)
  errorMessage : m.errorMessage = m.fault.map Fault.message
  told : ∃ earlier,
    machineEvents done = earlier ++ [.halt m.exitCode (m.errorMessage.map Complaint.mk)] ∧
      ∀ e ∈ earlier, ¬ e.IsHalt

/-- Whatever the host asks for, nothing happens, and the answer is always the same. -/
structure IsFinal (m : Machine δ) : Prop where
  step : step m = ⟨.ok .halted, m, []⟩
  run : ∀ patience, runToHalt? patience m = some ⟨m.verdict, m, []⟩
  runFor : ∀ limit, runFor (limit + 1) m = ⟨m.verdict.map .halted, m, []⟩
  runToStop : ∀ patience, runToStop? (patience + 1) m = some ⟨m.verdict.map .halted, m, []⟩

lemma isFinal_of_halted (halted : m.halted = true) : m.IsFinal := by
  have hstep := step_of_halted halted
  have hrun : ∀ limit, runFor (limit + 1) m = ⟨m.verdict.map .halted, m, []⟩ := by
    intro limit
    rw [runFor_succ, hstep]
  refine ⟨hstep, runToHalt?_of_halted halted, hrun, fun patience => ?_⟩
  rw [runToStop?_of_ne_stepLimit, hrun]
  rw [hrun]
  exact map_halted_ne_stepLimit m.verdict

/-! ### In operation -/

lemma HaltedItself.arrive (h : HaltedItself done m) (device : δ) :
    HaltedItself done { m with device } := by
  obtain ⟨prior, before, device', word, code, hbefore, running, hword, hop, hdone, rfl, hexit⟩ := h
  exact ⟨prior, before, device, word, code, hbefore, running, hword, hop, hdone, rfl, hexit⟩

/-- What is kept by everything that is done with a machine in operation. -/
def Follows (done : List Activity) (m : Machine δ) : Prop :=
  (m.halted = false → IsUnderWay done m) ∧ (m.halted = true → HasEnded done m)

section Step

variable (h : IsUnderWay done m) (running : m.halted = false)

include h running

lemma IsUnderWay.goes_on (halted : (Machine.step m).state.halted = false)
    (hexit : (Machine.step m).state.exitCode = m.exitCode)
    (hmessage : (Machine.step m).state.errorMessage = m.errorMessage)
    (hfault : (Machine.step m).state.fault = m.fault) :
    Follows (done ++ (Machine.step m).activity) (Machine.step m).state := by
  refine ⟨fun _ => ⟨hexit.trans h.exitCode, hmessage.trans h.errorMessage, hfault.trans h.fault,
    ?_⟩, fun halted' => ?_⟩
  · rw [machineEvents_append, machineEvents_step running]
    intro e he
    rcases List.mem_append.mp he with he | he
    · exact h.untold e he
    · obtain rfl := List.mem_singleton.mp he
      exact not_isHalt_report halted
  · cases halted.symm.trans halted'

lemma IsUnderWay.ends (halted : (Machine.step m).state.halted = true)
    (hblocked : (Machine.step m).state.blocked = false)
    (hcause : ((Machine.step m).state.fault = none ∧
        HaltedItself (done ++ (Machine.step m).activity) (Machine.step m).state) ∨
      ((Machine.step m).state.fault ≠ none ∧ (Machine.step m).state.exitCode = 0))
    (hmessage : (Machine.step m).state.errorMessage
      = (Machine.step m).state.fault.map Fault.message) :
    Follows (done ++ (Machine.step m).activity) (Machine.step m).state := by
  refine ⟨fun halted' => ?_,
    fun _ => ⟨hblocked, hcause, hmessage, machineEvents done, ?_, h.untold⟩⟩
  · cases halted.symm.trans halted'
  · rw [machineEvents_append, machineEvents_step running, report_of_halted halted]

/-- A step of a machine under way leaves it under way or ends it. -/
lemma IsUnderWay.step (hm : Operated done m) :
    Follows (done ++ (Machine.step m).activity) (Machine.step m).state := by
  rcases hm.isSettled.step_cases running with
    hs | ⟨f, hf⟩ | ⟨word, code, hword, hop⟩ | ⟨hc, hr, hstate, -⟩
  · obtain ⟨word, v, -, -, hstep⟩ := step_of_starved running hs
    apply h.goes_on running <;> rw [hstep]
    exacts [running, rfl, rfl, rfl]
  · have hstep := step_of_pendingFault? running hf
    apply h.ends running <;> rw [hstep]
    exacts [rfl, rfl, .inr ⟨Option.some_ne_none f, h.exitCode⟩, rfl]
  · have hstate := (step_of_halt running hword hop).2
    apply h.ends running
    · rw [hstate]
    · rw [hstate]
      exact hm.isSettled.blocked_eq_false hword hop
    · left
      refine ⟨?_, done, m, _, word, code, hm, running, hword, hop, rfl, rfl, ?_⟩
      · rw [hstate]
        exact h.fault
      · rw [hstate]
    · rw [hstate]
      simp [h.errorMessage, h.fault]
  · have hother : ∀ code, m.nextInstruction ≠ some (.halt code) := by
      intro code hi
      obtain ⟨word, v, hword, hop, -⟩ := executeCurrent_of_nextInstruction hi
      rw [(step_of_halt running hword hop).1] at hr
      cases hr
    have hmessage := keeps_executeCurrent (g := Machine.errorMessage) (fun _ _ => rfl)
      (fun _ _ => rfl) (fun _ _ _ => rfl) (fun _ _ => rfl) m
    have hfault := keeps_executeCurrent (g := Machine.fault) (fun _ _ => rfl) (fun _ _ => rfl)
      (fun _ _ _ => rfl) (fun _ _ => rfl) m
    apply h.goes_on running <;> rw [hstate]
    exacts [hc.2, (exit_executeCurrent hother).2, hmessage, hfault]

end Step

/-- A machine in operation is under way until it has halted, and then it has ended. -/
lemma Operated.follows (h : Operated done m) : Follows done m := by
  refine h.keeps (P := Follows) ?_ ?_ ?_
  · exact fun program device => ⟨fun _ => ⟨rfl, rfl, rfl, nofun⟩, nofun⟩
  · intro done m hm input
    refine ⟨fun running => ?_, fun halted => ?_⟩
    · obtain ⟨hexit, hmessage, hfault, huntold⟩ := hm.1 running
      exact ⟨hexit, hmessage, hfault, huntold⟩
    · obtain ⟨hblocked, hcause, hmessage, htold⟩ := hm.2 halted
      refine ⟨hblocked, ?_, hmessage, htold⟩
      exact hcause.imp_left fun hitself => ⟨hitself.1, hitself.2.arrive _⟩
  · intro done m h hm
    cases running : m.halted with
    | false => exact (hm.1 running).step running h
    | true =>
      rw [step_of_halted running, List.append_nil]
      exact hm

/-- The status of a machine in operation agrees with itself and with what the observers of the
machine were told. There is an error message just if there is a fault, and it says what the fault
is; then the machine has halted. If it has halted, it is not blocked, the cause was an instruction
that halts, whose operand is the exit code, or a fault, and the observers were told once and last of
all; until then they were told nothing of the kind. From then on nothing happens any more. -/
theorem Operated.status_agrees (h : Operated done m) :
    m.errorMessage = m.fault.map Fault.message ∧
      (m.fault ≠ none → m.halted = true) ∧
      ¬ (m.halted = true ∧ m.blocked = true) ∧
      (m.halted = false → IsUnderWay done m) ∧
      (m.halted = true → HasEnded done m ∧ m.IsFinal) := by
  obtain ⟨hunderWay, hended⟩ := h.follows
  refine ⟨?_, fun hfault => ?_, fun hboth => ?_, hunderWay, fun halted => ?_⟩
  · cases running : m.halted with
    | true => exact (hended running).errorMessage
    | false =>
      have hunder := hunderWay running
      rw [hunder.errorMessage, hunder.fault]
      rfl
  · by_contra running
    exact hfault (hunderWay (Bool.of_not_eq_true running)).fault
  · cases (hended hboth.1).blocked.symm.trans hboth.2
  · exact ⟨hended halted, isFinal_of_halted halted⟩

/-- The program halts with the number 42. -/
theorem status_agrees_halt :
    ∃ done, ∃ m : Machine Buffered, Operated done m ∧ m.halted = true ∧ m.fault = none ∧
      m.exitCode = 42 ∧ HasEnded done m ∧ m.IsFinal := by
  have hhalt : Instruction.ofOpcode? (InstructionWord.opcode 0x092A0000)
      = some (.halt .immediate) := by
    rw [Instruction.ofOpcode?_eq_lookup]
    decide
  have hoperated := (Operated.load [0x092A0000] ({} : Buffered)).step
  have hword := (atWord_loadProgram [0x092A0000] ({} : Buffered)).nextWord rfl (by decide)
  obtain ⟨-, hstate⟩ := step_of_halt rfl hword hhalt
  obtain ⟨-, -, -, -, hended⟩ := hoperated.status_agrees
  refine ⟨_, _, hoperated, ?_, ?_, ?_, hended ?_⟩ <;> rw [hstate] <;> rfl

end Machine

end LectureMachine
