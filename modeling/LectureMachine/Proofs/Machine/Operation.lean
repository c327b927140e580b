import LectureMachine.Proofs.Machine.Calls
import LectureMachine.Proofs.Machine.Progress

/-!
# Machines in operation

A machine is switched on, a program is loaded into it, and from then on it is only stepped and run.
What is true after the loading, stays true when the device changes and is kept by every step is true
of such a machine at any time. In particular nothing is left over from one call to the next: no jump
is under way, and a machine that is blocked will try to read its input again.
-/

namespace LectureMachine.Machine

variable {δ : Type} [Device δ] {m : Machine δ} {done : List Activity}

/-! ### Operation -/

/-- A program was loaded into a new machine, and since then steps and runs were made, each run with
a limit or without one; `done` is all that the machine has done. Input may arrive at any time, in
whatever way this changes the device. -/
inductive Operated : List Activity → Machine δ → Prop
  | load (program : List InstructionWord) (device : δ) :
    Operated [.memory (.load program)] (loadProgram program (new device)).state
  | arrive {done : List Activity} {m : Machine δ} (h : Operated done m) (input : δ → δ) :
    Operated done { m with device := input m.device }
  | step {done : List Activity} {m : Machine δ} (h : Operated done m) :
    Operated (done ++ (step m).activity) (step m).state
  | runFor {done : List Activity} {m : Machine δ} (h : Operated done m) {limit? : Option Nat}
    {patience : Nat} {o : Outcome (Machine δ) Answer}
    (ho : (Call.runFor limit?).perform? patience m = some o) :
    Operated (done ++ o.activity) o.state

omit [Device δ] in
/-- What is kept when more is done is kept when one thing is done after the other. -/
lemma composes_keeps (P : List Activity → Machine δ → Prop) :
    Composes fun m more m' => ∀ done, P done m → P (done ++ more) m' where
  refl m done h := by rwa [List.append_nil]
  trans h h' done hP := by
    rw [← List.append_assoc]
    exact h' _ (h _ hP)

/-- What every step of a machine in operation keeps is kept all the time. -/
theorem Operated.keeps {P : List Activity → Machine δ → Prop}
    (hload : ∀ program device,
      P [.memory (.load program)] (loadProgram program (new device)).state)
    (harrive : ∀ done m, P done m → ∀ input : δ → δ, P done { m with device := input m.device })
    (hstep : ∀ done m, Operated done m → P done m →
      P (done ++ (Machine.step m).activity) (Machine.step m).state)
    (h : Operated done m) : P done m := by
  suffices hboth : Operated done m ∧ P done m from hboth.2
  induction h with
  | load program device => exact ⟨.load program device, hload program device⟩
  | arrive _ input ih => exact ⟨ih.1.arrive input, harrive _ _ ih.2 input⟩
  | step _ ih => exact ⟨ih.1.step, hstep _ _ ih.1 ih.2⟩
  | runFor _ ho ih =>
    -- The steps of a run are taken by machines in operation as well.
    have hcomposes := composes_keeps fun done (m : Machine δ) => Operated done m ∧ P done m
    have hgoverns : Governs (fun m more m' => ∀ done, Operated done m ∧ P done m →
        Operated (done ++ more) m' ∧ P (done ++ more) m') (Machine.step (δ := δ)) :=
      fun m done hm => ⟨hm.1.step, hstep done m hm.1 hm.2⟩
    rename_i limit? patience o
    cases limit? with
    | some limit =>
      obtain rfl := Option.some.inj ho
      exact hcomposes.runFor hgoverns limit _ _ ih
    | none =>
      obtain ⟨run, hrun, rfl⟩ := Option.map_eq_some_iff.mp ho
      exact hcomposes.runToStop? hgoverns hrun _ ih

/-! ### Between the calls -/

/-- No jump is under way, and if the machine is blocked then it has not halted, and it will try the
instruction that reads again. -/
structure IsSettled (m : Machine δ) : Prop where
  jumped : m.core.jumped = false
  waits : m.blocked = true → m.halted = false ∧ m.nextInstruction = some .getc

/-- Only the instruction that halts makes a machine halt without a fault, and gives an exit
code. -/
lemma exit_executeCurrent (h : ∀ code, m.nextInstruction ≠ some (.halt code)) :
    (executeCurrent m).state.halted = m.halted ∧
      (executeCurrent m).state.exitCode = m.exitCode := by
  cases hi : m.nextInstruction with
  | none =>
    obtain ⟨f, ir, done, he, -⟩ := executeCurrent_of_nextInstruction_eq_none hi
    rw [he]
    exact ⟨rfl, rfl⟩
  | some i =>
    obtain ⟨word, v, -, hop, he⟩ := executeCurrent_of_nextInstruction hi
    have hother : ∀ code, i ≠ .halt code := by
      rintro code rfl
      exact h code hi
    have hframe := Instruction.frame_of_legal ⟨_, hop⟩ word.field { m with core.ir := word }
    rw [he]
    exact hframe.exit hother

omit [Device δ] in
/-- A machine that is blocked will not try to halt. -/
lemma IsSettled.blocked_eq_false (h : m.IsSettled) {word : InstructionWord} {code : Operand}
    (hword : m.nextWord = some word)
    (hop : Instruction.ofOpcode? word.opcode = some (.halt code)) : m.blocked = false := by
  refine Bool.of_not_eq_true fun hblocked => ?_
  have hgetc := (h.waits hblocked).2
  rw [nextInstruction, hword, Option.bind_some, hop] at hgetc
  cases hgetc

/-- A settled machine waits for input, or faults, or halts, or goes on. -/
lemma IsSettled.step_cases (h : m.IsSettled) (running : m.halted = false) :
    m.Starved ∨ (∃ f, m.pendingFault? = some f) ∨
      (∃ word code, m.nextWord = some word ∧
        Instruction.ofOpcode? word.opcode = some (.halt code)) ∨
      (m.Completes ∧ (Machine.step m).result = .ok .running ∧
        (Machine.step m).state = (executeCurrent m).state.advanced ∧
        (executeCurrent m).state.blocked = false) := by
  by_cases hs : m.Starved
  · exact .inl hs
  by_cases hc : m.Completes
  · have hb := blocked_executeCurrent hs fun hblocked => (h.waits hblocked).2
    obtain ⟨hr, hstate⟩ := step_of_goes_on running hc hb
    exact .inr (.inr (.inr ⟨hc, hr, hstate, hb⟩))
  · cases hresult : (executeCurrent m).result with
    | error f => exact .inr (.inl ⟨f, by rw [pendingFault?, hresult]⟩)
    | ok _ =>
      refine .inr (.inr (.inl ?_))
      by_contra hother
      refine hc ⟨hresult, (exit_executeCurrent fun code hi => hother ?_).1.trans running⟩
      obtain ⟨word, hword, hop⟩ := Option.bind_eq_some_iff.mp hi
      exact ⟨word, code, hword, hop⟩

/-- A step that goes on has completed an instruction. -/
lemma IsSettled.completes (h : m.IsSettled) (running : m.halted = false)
    (hr : (Machine.step m).result = .ok .running) :
    m.Completes ∧ (Machine.step m).state = (executeCurrent m).state.advanced := by
  rcases h.step_cases running with hs | ⟨f, hf⟩ | ⟨word, code, hword, hop⟩ | ⟨hc, -, hstate, -⟩
  · obtain ⟨word, v, -, -, hstep⟩ := step_of_starved running hs
    rw [hstep] at hr
    cases hr
  · rw [step_of_pendingFault? running hf] at hr
    cases hr
  · rw [(step_of_halt running hword hop).1] at hr
    cases hr
  · exact ⟨hc, hstate⟩

/-- A step settles again. -/
lemma IsSettled.step (h : m.IsSettled) : (step m).state.IsSettled := by
  cases running : m.halted with
  | true =>
    rw [step_of_halted running]
    exact h
  | false =>
    rcases h.step_cases running with hs | ⟨f, hf⟩ | ⟨word, code, hword, hop⟩ | ⟨hc, -, hstate, hb⟩
    · obtain ⟨word, v, -, -, hstep⟩ := step_of_starved running hs
      rw [hstep]
      exact ⟨h.jumped, fun _ => ⟨running, hs.1⟩⟩
    · rw [step_of_pendingFault? running hf]
      refine ⟨h.jumped, fun hblocked => ?_⟩
      cases hblocked
    · rw [(step_of_halt running hword hop).2]
      refine ⟨h.jumped, fun hblocked => ?_⟩
      cases (h.blocked_eq_false hword hop).symm.trans hblocked
    · rw [hstate]
      refine ⟨(Prod.mk.inj m.advanced_executeCurrent.1).2, fun hblocked => ?_⟩
      cases hb.symm.trans hblocked

/-- A machine in operation is settled between the calls. -/
theorem Operated.isSettled (h : Operated done m) : m.IsSettled := by
  refine h.keeps (P := fun _ m => m.IsSettled) ?_ ?_ ?_
  · exact fun program device => ⟨rfl, nofun⟩
  · exact fun done m hm input => ⟨hm.jumped, hm.waits⟩
  · exact fun done m _ hm => hm.step

end LectureMachine.Machine
