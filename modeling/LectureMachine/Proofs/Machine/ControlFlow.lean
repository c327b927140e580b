import LectureMachine.Proofs.Machine.Operation
import LectureMachine.Proofs.Machine.Preview

/-!
# Where a program goes

A step that completes an instruction goes on to the next word, or over as many words as a relative
jump says, or to the address that an absolute jump reads from a register; a step that waits or halts
stays where it is. So the instruction pointer of a machine in operation is a multiple of four until
an absolute jump takes it elsewhere, and there the machine is stopped before it does anything else.
-/

namespace LectureMachine

open Transition
open Machine (Operated)

/-! ### Reading registers -/

/-- What an observer of the registers is told about reading. -/
def RegisterEvent.reading : RegisterEvent → List (Register × Word)
  | .read r v => [(r, v)]
  | _ => []

/-- The registers that were read, each with the value that was found there. -/
def registerReads (done : List Activity) : List (Register × Word) :=
  Observers.log { registers := [RegisterEvent.reading] } done

@[simp] lemma registerReads_append (done more : List Activity) :
    registerReads (done ++ more) = registerReads done ++ registerReads more :=
  Observers.log_append ..

/-! ### From an instruction to the next -/

/-- An operation that was completed has gone on to the address `ip`. An absolute jump goes to the
value that it reads from X, and this is the return address if Y is the same register. -/
def Instruction.GoesOnTo (i : Instruction) (field : OperandField) (core : Core)
    (done : List Activity) (ip : Word) : Prop :=
  match i with
  | .jumpAbsolute =>
    registerReads done = [(field.rx, ip)] ∧
      ip = if field.rx = field.ry ∧ field.rx ≠ 0 then core.ip + 4 else core.alu.peek field.rx
  | .jumpRelative c => ip = if core.holds c then core.ip + 4 * field.sxyz else core.ip + 4
  | _ => ip = core.ip + 4

/-- Of what was done, only the reading of registers counts. -/
lemma Instruction.GoesOnTo.congr {i : Instruction} {field : OperandField} {core : Core}
    {done done' : List Activity} {ip : Word} (h : i.GoesOnTo field core done ip)
    (hreads : registerReads done = registerReads done') : i.GoesOnTo field core done' ip := by
  cases i with
  | jumpAbsolute => exact ⟨hreads ▸ h.1, h.2⟩
  | _ => exact h

/-- The link is written before the target is read. -/
lemma Alu.peek_write_link (alu : Alu) (hzero : alu.peek 0 = 0) (rx ry : Register) (link : Word) :
    (write ry link alu).state.peek rx = if rx = ry ∧ rx ≠ 0 then link else alu.peek rx := by
  rw [peek_write]
  by_cases hxy : rx = ry
  · subst hxy
    by_cases hx : rx = 0
    · simp [hx, hzero]
    · simp [hx]
  · simp [hxy]

namespace Machine

variable {δ : Type} [Device δ] {m : Machine δ} {done : List Activity}

/-- The registers that are read in a step are those that its instruction reads. -/
lemma registerReads_step {word : InstructionWord} {i : Instruction} (running : m.halted = false)
    (hword : m.nextWord = some word) (hop : Instruction.ofOpcode? word.opcode = some i) :
    registerReads (step m).activity =
      registerReads (i.execute word.field { m with core.ir := word }).activity := by
  obtain ⟨e, hactivity⟩ := activity_step running
  obtain ⟨v, he⟩ := executeCurrent_of_nextWord hword
  rw [InstructionWord.execute_of_some hop] at he
  rw [hactivity, he, Outcome.activity_after, registerReads_append, registerReads_append]
  simp [registerReads, Observers.log, Observers.entries]

/-- The word that comes next is the instruction word after the step. -/
lemma ir_step_of_nextWord {word : InstructionWord} (running : m.halted = false)
    (hword : m.nextWord = some word) : (step m).state.core.ir = word := by
  rw [nextWord_eq] at hword
  split_ifs at hword with haligned
  rw [ir_step running haligned]
  exact Option.some.inj hword

lemma goesOnTo_target? (hzero : m.ReadsZero) (i : Instruction) (word : InstructionWord) :
    i.GoesOnTo word.field m.core (i.execute word.field { m with core.ir := word }).activity
      ((i.target? word.field m.core).getD (m.core.ip + 4)) := by
  cases i with
  | jumpAbsolute => exact ⟨rfl, Alu.peek_write_link m.core.alu hzero _ _ _⟩
  | jumpRelative c =>
    rw [Instruction.GoesOnTo, Instruction.target?]
    split_ifs
    · rw [Option.getD_some, Word.shiftLeft_two]
    · rfl
  | _ => rfl

/-- A step that completes an instruction goes where the instruction says. -/
lemma IsSettled.goesOnTo (h : m.IsSettled) (hzero : m.ReadsZero)
    (hr : (Machine.step m).result = .ok .running) :
    ∃ word i, m.nextWord = some word ∧ (Machine.step m).state.core.ir = word ∧
      Instruction.ofOpcode? word.opcode = some i ∧
      i.GoesOnTo word.field m.core (Machine.step m).activity (Machine.step m).state.core.ip := by
  have running := running_of_step (m := m) (by simp [hr])
  obtain ⟨hc, hstate⟩ := h.completes running hr
  cases hi : m.nextInstruction with
  | none =>
    obtain ⟨f, ir, done, he, -⟩ := executeCurrent_of_nextInstruction_eq_none hi
    rw [Completes, he] at hc
    cases hc.1
  | some i =>
    obtain ⟨word, hword, hop⟩ := Option.bind_eq_some_iff.mp hi
    refine ⟨word, i, hword, ir_step_of_nextWord running hword, hop, ?_⟩
    have hip : (Machine.step m).state.core.ip
        = (i.target? word.field m.core).getD (m.core.ip + 4) := by
      have hplace := (Prod.mk.inj m.advanced_executeCurrent.1).1
      rw [h.jumped, if_neg Bool.false_ne_true, jumpTarget?, hword, Option.bind_some, hop,
        Option.bind_some] at hplace
      rw [hstate]
      exact hplace
    rw [hip]
    exact (goesOnTo_target? hzero i word).congr (registerReads_step running hword hop).symm

/-- A step that waits or halts stays where it is. -/
lemma IsSettled.ip_step (h : m.IsSettled) (hr : (Machine.step m).result ≠ .ok .running) :
    (Machine.step m).state.core.ip = m.core.ip := by
  cases running : m.halted with
  | true => rw [step_of_halted running]
  | false =>
    rcases h.step_cases running with hs | ⟨f, hf⟩ | ⟨word, code, hword, hop⟩ | ⟨-, hgoes, -⟩
    · obtain ⟨word, v, -, -, hstep⟩ := step_of_starved running hs
      rw [hstep]
      rfl
    · rw [step_of_pendingFault? running hf]
      rfl
    · rw [(step_of_halt running hword hop).2]
    · exact absurd hgoes hr

/-- Register 0 of a machine in operation reads as zero. -/
lemma Operated.readsZero (h : Operated done m) : m.ReadsZero := by
  refine h.keeps (P := fun _ m => m.ReadsZero) ?_ ?_ ?_
  · exact fun program device => Alu.peek_empty 0
  · exact fun done m hm input => hm
  · exact fun done m _ hm => hm.step

/-! ### Away from the words -/

/-- The last thing that the machine has done was to make an absolute jump, or to stop because no
word can be fetched from where the jump has led. -/
inductive JustJumped : List Activity → Machine δ → Prop
  | landed {prior : List Activity} {before : Machine δ} (h : Operated prior before)
    (hi : before.nextInstruction = some .jumpAbsolute)
    (hr : (step before).result = .ok .running) (device : δ) :
    JustJumped (prior ++ (step before).activity) { (step before).state with device }
  | stopped {done : List Activity} {m : Machine δ} (h : JustJumped done m)
    (running : m.halted = false) :
    JustJumped
      (done ++ [.machine (.halt m.exitCode (some ⟨(Fault.misaligned m.core.ip 4).message⟩))])
      (m.stopped (.misaligned m.core.ip 4))

lemma JustJumped.arrive (h : JustJumped done m) (device : δ) :
    JustJumped done { m with device } := by
  induction h with
  | landed h hi hr _ => exact .landed h hi hr device
  | stopped _ running ih => exact ih.stopped running

/-- Where no word can be fetched, a machine that has not halted stops. -/
lemma step_of_misaligned (running : m.halted = false) (h : ¬ 4 ∣ m.core.ip.toNat) :
    step m =
      ⟨.ok .halted, m.stopped (.misaligned m.core.ip 4),
        [.machine (.halt m.exitCode (some ⟨(Fault.misaligned m.core.ip 4).message⟩))]⟩ := by
  have hpeek := m.peek_ip
  rw [if_neg h] at hpeek
  exact step_of_error running (executeCurrent_of_error hpeek)

omit [Device δ] in
/-- From a multiple of four, only an absolute jump leads elsewhere. -/
lemma eq_jumpAbsolute_of_goesOnTo {i : Instruction} {field : OperandField} {core : Core} {ip : Word}
    (h : i.GoesOnTo field core done ip) (haligned : 4 ∣ core.ip.toNat) (hip : ¬ 4 ∣ ip.toNat) :
    i = .jumpAbsolute := by
  have hnext : 4 ∣ (core.ip + 4).toNat := by bv_omega
  have hover : 4 ∣ (core.ip + 4 * field.sxyz).toNat := by bv_omega
  cases i with
  | jumpAbsolute => rfl
  | jumpRelative c =>
    rw [Instruction.GoesOnTo] at h
    split_ifs at h <;> subst h <;> contradiction
  | _ => exact absurd (h ▸ hnext) hip

/-- A machine that is not at a multiple of four has just jumped there. -/
lemma Operated.justJumped (h : Operated done m) (hip : ¬ 4 ∣ m.core.ip.toNat) :
    JustJumped done m := by
  refine h.keeps (P := fun done m => ¬ 4 ∣ m.core.ip.toNat → JustJumped done m) ?_ ?_ ?_ hip
  · exact fun program device hip => absurd (Nat.dvd_zero 4) hip
  · exact fun done m hm input hip => (hm hip).arrive _
  · intro done m h hm hip
    cases running : m.halted with
    | true =>
      rw [step_of_halted running] at hip ⊢
      rw [List.append_nil]
      exact hm hip
    | false =>
      by_cases haligned : 4 ∣ m.core.ip.toNat
      · by_cases hr : (Machine.step m).result = .ok .running
        · obtain ⟨word, i, hword, -, hop, hgoes⟩ := h.isSettled.goesOnTo h.readsZero hr
          obtain rfl := eq_jumpAbsolute_of_goesOnTo hgoes haligned hip
          exact .landed h (by rw [nextInstruction, hword, Option.bind_some, hop]) hr _
        · rw [h.isSettled.ip_step hr] at hip
          exact absurd haligned hip
      · rw [step_of_misaligned running haligned]
        exact (hm haligned).stopped running

/-- The control flow of a machine in operation. No jump is under way between the calls. A step that
goes on completes an instruction and leads to where this goes on to, and all other steps stay where
they are. So the instruction pointer is a multiple of four, but for just after an absolute jump to
an address that is none, and then the next step stops the machine there. -/
theorem Operated.control_flow (h : Operated done m) :
    m.core.jumped = false ∧
      ((Machine.step m).result = .ok .running →
        ∃ word i, m.nextWord = some word ∧ (Machine.step m).state.core.ir = word ∧
          Instruction.ofOpcode? word.opcode = some i ∧
          i.GoesOnTo word.field m.core (Machine.step m).activity
            (Machine.step m).state.core.ip) ∧
      ((Machine.step m).result ≠ .ok .running →
        (Machine.step m).state.core.ip = m.core.ip) ∧
      (¬ 4 ∣ m.core.ip.toNat →
        JustJumped done m ∧ (Machine.step m).result = .ok .halted ∧
          (Machine.step m).state.fault = some (.misaligned m.core.ip 4)) := by
  refine ⟨h.isSettled.jumped, h.isSettled.goesOnTo h.readsZero, h.isSettled.ip_step, ?_⟩
  intro hip
  have hjumped := h.justJumped hip
  refine ⟨hjumped, ?_⟩
  cases running : m.halted with
  | false =>
    rw [step_of_misaligned running hip]
    exact ⟨rfl, rfl⟩
  | true =>
    rw [step_of_halted running]
    cases hjumped with
    | landed _ _ hr device =>
      rw [(step_shows _).1] at hr
      have hgoes := halted_eq_false_of_status (.inl (Except.ok.inj hr))
      cases hgoes.symm.trans running
    | stopped _ _ => exact ⟨rfl, rfl⟩

/-- The program puts the address 2 into register 1 and jumps to it. -/
theorem control_flow_stray :
    ∃ done, ∃ m : Machine Buffered, Operated done m ∧ JustJumped done m ∧ m.core.ip = 2 ∧
      (step m).result = .ok .halted ∧ (step m).state.fault = some (.misaligned 2 4) := by
  have hload : Instruction.ofOpcode? (InstructionWord.opcode 0x56000201) = some .loadUnsigned := by
    rw [Instruction.ofOpcode?_eq_lookup]
    decide
  have hjump : Instruction.ofOpcode? (InstructionWord.opcode 0x40010200) = some .jumpAbsolute := by
    rw [Instruction.ofOpcode?_eq_lookup]
    decide
  have hoperated := Operated.load [0x56000201, 0x40010200] ({} : Buffered)
  have hstart := atWord_loadProgram [0x56000201, 0x40010200] ({} : Buffered)
  generalize (loadProgram [0x56000201, 0x40010200] (new ({} : Buffered))).state = m₀ at *
  obtain ⟨-, hstate⟩ := step_of_plain hstart.halted hstart.blocked hstart.jumped
    (hstart.nextWord rfl (by decide)) hload rfl ⟨rfl, rfl, rfl⟩
  obtain ⟨-, hnext⟩ := hstart.goesOn_succ rfl (by decide) hload rfl ⟨rfl, rfl, rfl⟩ rfl
  have hone : (m₀.wentOn 0x56000201 .loadUnsigned).core.alu.peek 1 = 2 := by
    rw [peek_wentOn, Alu.Results.value_of_writes_eq rfl]
    rfl
  have hoperated₁ := hoperated.step
  rw [hstate] at hoperated₁
  generalize m₀.wentOn 0x56000201 .loadUnsigned = m₁ at *
  obtain ⟨-, hstate₁⟩ := step_of_plain hnext.halted hnext.blocked hnext.jumped
    (hnext.nextWord rfl (by decide)) hjump rfl ⟨rfl, rfl, rfl⟩
  have hip : (step m₁).state.core.ip = 2 := by
    rw [hstate₁]
    exact (Alu.peek_write_link _ hnext.readsZero 1 2 _).trans hone
  obtain ⟨-, -, -, hstray⟩ := hoperated₁.step.control_flow
  rw [hip] at hstray
  exact ⟨_, _, hoperated₁.step, (hstray (by decide)).1, hip, (hstray (by decide)).2⟩

end Machine

end LectureMachine
