import LectureMachine.Proofs.Instruction.Text
import LectureMachine.Proofs.Machine.Flaw
import LectureMachine.Proofs.Machine.Log

/-!
# Previews

After every instruction that is completed, the observers of the machine are told which one comes
next: its operand bytes and its text, found by a look at the memory that nobody sees. The next step
finds the instruction anew, over the bus and in the table of the opcodes. Both ways agree, whatever
has been stored and wherever a jump has gone, so that each instruction but the first is announced
once before it is tried, and is what it was announced to be.
-/

namespace LectureMachine

open Transition
open Activity (IsOffBus IsInner)

variable {δ : Type}

/-! ### What the observers are told -/

/-- What an observer of the machine is told about the next instruction. -/
def MachineEvent.preview : MachineEvent → List (OperandField × String)
  | .next word => [(Preview.field word, Preview.text word)]
  | _ => []

/-- All that an observer of the machine is told about next instructions. -/
def previews (done : List Activity) : List (OperandField × String) :=
  Observers.log { machine := [MachineEvent.preview] } done

/-- All that an observer of the memory is told. -/
def busEvents (done : List Activity) : List MemoryEvent :=
  Observers.log { memory := [fun e => [e]] } done

@[simp] lemma previews_append (done more : List Activity) :
    previews (done ++ more) = previews done ++ previews more := Observers.log_append ..

@[simp] lemma busEvents_append (done more : List Activity) :
    busEvents (done ++ more) = busEvents done ++ busEvents more := Observers.log_append ..

@[simp] lemma busEvents_nil : busEvents [] = [] := rfl

@[simp] lemma busEvents_register (e : RegisterEvent) (done : List Activity) :
    busEvents (.register e :: done) = busEvents done := rfl

@[simp] lemma busEvents_memory (e : MemoryEvent) (done : List Activity) :
    busEvents (.memory e :: done) = e :: busEvents done := rfl

@[simp] lemma busEvents_machine (e : MachineEvent) (done : List Activity) :
    busEvents (.machine e :: done) = busEvents done := rfl

lemma previews_of_isInner {done : List Activity} (h : ∀ a ∈ done, a.IsInner) :
    previews done = [] := by
  apply List.flatMap_eq_nil_iff.mpr
  intro a ha
  have hinner := h a ha
  cases a with
  | machine e => cases hinner
  | _ => rfl

lemma busEvents_of_isOffBus {done : List Activity} (h : ∀ a ∈ done, a.IsOffBus) :
    busEvents done = [] := by
  apply List.flatMap_eq_nil_iff.mpr
  intro a ha
  have hoff := h a ha
  cases a with
  | memory e => cases hoff
  | _ => rfl

/-! ### The bus -/

/-- The access to the memory is of the kind that the operation is there to make. -/
def Instruction.Makes (i : Instruction) : MemoryEvent → Prop
  | .read _ width _ => ∃ signed addressing, i = .fetch width signed addressing
  | .write _ width _ => ∃ addressing, i = .store width addressing
  | .load _ | .reset => False

lemma Core.busEvents_fetch (address : Word) (width : Nat) (signed : Bool) (r : Register)
    (core : Core) :
    busEvents (fetch address width signed r core).activity = [] ∨
      ∃ v, busEvents (fetch address width signed r core).activity = [.read address width v] := by
  cases h : core.memory.peek address width with
  | error f =>
    left
    simp [fetch, bind_apply, Memory.read_apply, h]
  | ok v =>
    right
    exact ⟨v, by simp [fetch, bind_apply, Memory.read_apply, h]⟩

lemma Memory.busEvents_write (address : Word) (width : Nat) (v : Word) (m : Memory) :
    busEvents (write address width v m).activity = [] ∨
      busEvents (write address width v m).activity = [.write address width v] := by
  cases h : locate address width with
  | error f =>
    left
    simp [write_apply, h]
  | ok place =>
    right
    simp [write_apply, h]

variable [Device δ]

/-- An operation makes one access to the memory at most. -/
lemma Instruction.busEvents_execute (i : Instruction) (field : OperandField) (m : Machine δ) :
    (busEvents (i.execute field m).activity).length ≤ 1 ∧
      ∀ e ∈ busEvents (i.execute field m).activity, i.Makes e := by
  cases hi : i.width? with
  | none =>
    rw [busEvents_of_isOffBus ((logs_execute_of_width?_eq_none hi field).emits m)]
    simp
  | some width =>
    cases i with
    | fetch width signed addressing =>
      have hfetch := fun address => Core.busEvents_fetch address width signed field.rz m.core
      cases addressing with
      | displaced =>
        obtain h | ⟨v, h⟩ := hfetch (field.sx + m.core.alu.peek field.ry) <;>
          simp [execute, Core.fetchDisplaced, bind_apply, h, Makes]
      | scaled scale =>
        obtain h | ⟨v, h⟩ := hfetch
            (m.core.alu.peek field.rx + Core.scaled (m.core.alu.peek field.ry) scale) <;>
          simp [execute, Core.fetchScaled, bind_apply, h, Makes]
    | store width addressing =>
      have hwrite := fun address =>
        Memory.busEvents_write address width (m.core.alu.peek field.rx) m.core.memory
      cases addressing with
      | displaced =>
        obtain h | h := hwrite (field.sy + m.core.alu.peek field.rz) <;>
          simp [execute, Core.storeDisplaced, bind_apply, h, Makes]
      | scaled scale =>
        obtain h | h := hwrite
            (m.core.alu.peek field.ry + Core.scaled (m.core.alu.peek field.rz) scale) <;>
          simp [execute, Core.storeScaled, bind_apply, h, Makes]
    | _ => cases hi

/-- The access to the memory is one that a word makes as an instruction. -/
def InstructionWord.Makes (word : InstructionWord) (e : MemoryEvent) : Prop :=
  ∃ i, Instruction.ofOpcode? word.opcode = some i ∧ i.Makes e

lemma InstructionWord.busEvents_execute (word : InstructionWord) (m : Machine δ) :
    (busEvents (word.execute m).activity).length ≤ 1 ∧
      ∀ e ∈ busEvents (word.execute m).activity, word.Makes e := by
  cases hi : Instruction.ofOpcode? word.opcode with
  | some i =>
    rw [execute_of_some hi]
    obtain ⟨hlength, hmakes⟩ := i.busEvents_execute word.field m
    exact ⟨hlength, fun e he => ⟨i, hi, hmakes e he⟩⟩
  | none =>
    rw [execute_of_none hi]
    simp

/-! ### The fetch -/

namespace Machine

variable {m : Machine δ}

/-- The word that the instruction pointer points to is fetched, becomes the current instruction and
is carried out. -/
lemma executeCurrent_of_aligned (h : 4 ∣ m.core.ip.toNat) :
    executeCurrent m =
      (m.word.execute { m with core.ir := m.word }).after
        [.memory (.read m.core.ip 4 (m.word.setWidth 64))] := by
  have hpeek := m.peek_ip
  rw [if_pos h] at hpeek
  have hlt := FlatMemory.value_lt_pow m.core.memory.byte m.core.ip 4
  have hwide : BitVec.ofNat 64 (FlatMemory.value m.core.memory.byte m.core.ip 4)
      = m.word.setWidth 64 := by
    apply BitVec.eq_of_toNat_eq
    rw [word, BitVec.toNat_setWidth, BitVec.toNat_ofNat, BitVec.toNat_ofNat]
    omega
  rw [executeCurrent_of_ok hpeek, hwide, BitVec.setWidth_setWidth_of_le _ (by decide),
    BitVec.setWidth_eq]

/-- Whatever the instruction does, it stays the current one. -/
lemma ir_executeCurrent (h : 4 ∣ m.core.ip.toNat) : (executeCurrent m).state.core.ir = m.word := by
  have hword := m.nextWord_eq
  rw [if_pos h] at hword
  cases hresult : (executeCurrent m).result with
  | error f =>
    rw [state_executeCurrent_of_error hresult, hword]
    rfl
  | ok _ =>
    cases hi : Instruction.ofOpcode? m.word.opcode with
    | none =>
      rw [executeCurrent_of_aligned h, InstructionWord.execute_of_none hi] at hresult
      cases hresult
    | some i =>
      have hpending : m.pendingFault? = none := by
        rw [pendingFault?, hresult]
      rw [pendingFault?_of_legal hword hi] at hpending
      rw [(executeCurrent_of_allowed hword hi hpending).2]
      rfl

lemma ir_step (running : m.halted = false) (h : 4 ∣ m.core.ip.toNat) :
    (step m).state.core.ir = m.word := by
  obtain ⟨ip, jumped, hcore⟩ := core_step running
  rw [hcore]
  exact ir_executeCurrent h

/-! ### What is shown -/

/-- What is shown of the instruction that comes next. -/
def upcoming (m : Machine δ) : OperandField × String :=
  (Preview.field m.nextWord, Preview.text m.nextWord)

/-- The instruction that the next step tries to carry out: the one that it fetches, unless it cannot
fetch any. -/
def attempted (m : Machine δ) : OperandField × String :=
  if 4 ∣ m.core.ip.toNat then
    ((step m).state.core.ir.field, (step m).state.core.ir.disassemble)
  else (⟨0⟩, "illegal instruction")

/-- What is found without being seen is what the next step finds. -/
lemma attempted_eq_upcoming (running : m.halted = false) : m.attempted = m.upcoming := by
  rw [attempted, upcoming, nextWord_eq]
  split_ifs with h
  · rw [ir_step running h]
    rfl
  · rfl

/-- A step ends with the status that it leaves the machine in, and if the machine is running, the
next instruction is shown. -/
lemma step_shows (m : Machine δ) :
    (step m).result = .ok (step m).state.status ∧
      previews (step m).activity =
        if (step m).state.status = .running then [(step m).state.upcoming] else [] := by
  cases halted : m.halted with
  | true =>
    rw [step_of_halted halted]
    simp [status, halted, previews]
  | false =>
    have hinner := previews_of_isInner (logs_executeCurrent.emits m)
    rcases he : executeCurrent m with ⟨f | ⟨⟩, m', done⟩ <;> rw [he] at hinner
    · rw [step_of_error halted he, previews_append, hinner]
      exact ⟨rfl, rfl⟩
    · rw [step_of_ok halted he, Outcome.result_after, Outcome.state_after, Outcome.activity_after,
        previews_append, hinner]
      cases halted' : m'.halted with
      | true =>
        rw [advance_of_halted halted']
        simp only [status, halted']
        exact ⟨rfl, rfl⟩
      | false =>
        cases blocked : m'.blocked with
        | true =>
          rw [advance_of_blocked halted' blocked]
          simp only [status, halted', blocked]
          exact ⟨rfl, rfl⟩
        | false =>
          rw [advance_of_running halted' blocked]
          have hstatus : m'.advanced.status = .running := by
            simp [advanced, status, halted', blocked]
          rw [hstatus]
          exact ⟨rfl, rfl⟩

lemma running_of_step (h : (step m).result ≠ .ok .halted) : m.halted = false := by
  cases halted : m.halted with
  | false => rfl
  | true =>
    rw [step_of_halted halted] at h
    exact absurd rfl h

/-- An instruction that finds no input is the next one again. -/
lemma upcoming_of_blocked (fresh : m.IsFresh) (h : (step m).result = .ok .blocked) :
    (step m).state.core.ir.opcode = 0x60 ∧ (step m).state.upcoming = m.upcoming := by
  have running := running_of_step (m := m) (by simp [h])
  have hcompletes : m.Completes := by
    by_contra hc
    rw [(step_of_not_completes running hc).1] at h
    cases h
  have hfound := (stepsHonestly_of_not_isStale fresh.not_isStale).blocked h
  obtain ⟨word, v, -, hop, hstep⟩ :=
    step_of_starved running (starved_of_foundNoInput running hcompletes hfound)
  rw [hstep]
  exact ⟨hop, rfl⟩

/-! ### Steps that fail to begin -/

/-- The next step ends in a fault before an instruction is carried out: the instruction pointer is
not aligned, or the opcode that was fetched is not in the table. -/
def FailsToBegin (m : Machine δ) : Prop :=
  (¬ 4 ∣ m.core.ip.toNat ∧ (step m).state.fault = some (.misaligned m.core.ip 4)) ∨
  (4 ∣ m.core.ip.toNat ∧ Instruction.ofOpcode? (step m).state.core.ir.opcode = none ∧
    (step m).state.fault = some (.illegalInstruction (step m).state.core.ir.opcode))

lemma failsToBegin_iff (running : m.halted = false) :
    m.FailsToBegin ↔
      ¬ 4 ∣ m.core.ip.toNat ∨ Instruction.ofOpcode? (step m).state.core.ir.opcode = none := by
  have hfault := fault_step m running
  rw [pendingFault?_eq_flaw?] at hfault
  constructor
  · rintro (⟨h, -⟩ | ⟨-, hi, -⟩)
    · exact .inl h
    · exact .inr hi
  · intro h
    by_cases haligned : 4 ∣ m.core.ip.toNat
    · have hi := h.resolve_left (not_not.mpr haligned)
      right
      refine ⟨haligned, hi, ?_⟩
      rw [ir_step running haligned] at hi ⊢
      rw [hfault, flaw?_of_illegal haligned hi]
      rfl
    · left
      refine ⟨haligned, ?_⟩
      rw [hfault, flaw?_of_misaligned haligned]
      rfl

/-- The text of an instruction that is tried tells whether it can be begun at all. -/
structure IsShownRight (m : Machine δ) : Prop where
  illegal : m.attempted.2 = "illegal instruction" ↔ m.FailsToBegin
  fails : m.FailsToBegin ↔
    ¬ 4 ∣ m.core.ip.toNat ∨ Instruction.ofOpcode? (step m).state.core.ir.opcode = none
  implemented : m.attempted.2 ≠ "not implemented"

lemma isShownRight (running : m.halted = false) : m.IsShownRight where
  fails := failsToBegin_iff running
  illegal := by
    rw [failsToBegin_iff running, attempted]
    split_ifs with h
    · simp [h, ← InstructionWord.disassemble_eq_illegalInstructionText_iff, illegalInstructionText]
    · simp [h]
  implemented := by
    rw [attempted]
    split_ifs
    · dsimp only
      exact InstructionWord.disassemble_ne_notImplemented
    · simp

/-! ### The bus during a step -/

/-- What is seen of a step. The memory is read at the instruction pointer, and once more at most, by
the instruction itself; then follows what is said about the machine as a whole, and no access any
more. -/
structure UsesBus (m : Machine δ) : Prop where
  aligned : 4 ∣ m.core.ip.toNat →
    ∃ data, busEvents (step m).activity =
        .read m.core.ip 4 ((step m).state.core.ir.setWidth 64) :: data ∧
      data.length ≤ 1 ∧ ∀ e ∈ data, (step m).state.core.ir.Makes e
  misaligned : ¬ 4 ∣ m.core.ip.toNat →
    (step m).activity =
      [.machine (.halt m.exitCode (some ⟨(Fault.misaligned m.core.ip 4).message⟩))]
  unseen : ∃ e, (step m).activity = (executeCurrent m).activity ++ [.machine e]

/-- The fetch comes first, and then the access of the instruction, if it makes one. -/
lemma activity_executeCurrent (h : 4 ∣ m.core.ip.toNat) :
    ∃ done, (executeCurrent m).activity =
        .memory (.read m.core.ip 4 (m.word.setWidth 64)) :: done ∧
      (busEvents done).length ≤ 1 ∧ ∀ e ∈ busEvents done, m.word.Makes e := by
  refine ⟨(m.word.execute { m with core.ir := m.word }).activity, ?_,
    m.word.busEvents_execute _⟩
  rw [executeCurrent_of_aligned h, Outcome.activity_after, List.singleton_append]

lemma usesBus (running : m.halted = false) : m.UsesBus where
  unseen := activity_step running
  misaligned h := by
    have hpeek := m.peek_ip
    rw [if_neg h] at hpeek
    rw [step_of_error running (executeCurrent_of_error hpeek), List.nil_append]
  aligned h := by
    obtain ⟨e, hactivity⟩ := activity_step running
    obtain ⟨done, hdone, hdata⟩ := activity_executeCurrent h
    rw [ir_step running h, hactivity, hdone]
    exact ⟨busEvents done, by simp, hdata⟩

/-! ### Runs -/

/-- The machines that take the steps of a run, one after the other. Between the steps the device may
change in any way. -/
def course (world : Nat → δ → δ) (m : Machine δ) : Nat → Machine δ
  | 0 => m
  | k + 1 =>
    let next := (step (course world m k)).state
    { next with device := world k next.device }

/-- The instructions that are begun in the first `n` steps of a run. A blocked machine tries the
instruction before it again and begins none, and a halted one does nothing. -/
def begun (run : Nat → Machine δ) (n : Nat) : List (OperandField × String) :=
  ((List.range n).filter fun k => (run k).status = .running).map fun k => (run k).attempted

/-- The instructions that are announced in the first `n` steps of a run. -/
def announced (run : Nat → Machine δ) (n : Nat) : List (OperandField × String) :=
  (List.range n).flatMap fun k => previews (step (run k)).activity

section Course

variable (world : Nat → δ → δ) (k : Nat)

lemma status_course_succ :
    (course world m (k + 1)).status = (step (course world m k)).state.status := rfl

lemma upcoming_course_succ :
    (course world m (k + 1)).upcoming = (step (course world m k)).state.upcoming := rfl

omit [Device δ] in
lemma halted_eq_false_of_status {m : Machine δ} (h : m.status = .running ∨ m.status = .blocked) :
    m.halted = false := by
  cases halted : m.halted with
  | false => rfl
  | true => simp [status, halted] at h

/-- What a step announces is begun by the step after it. -/
lemma previews_course :
    previews (step (course world m k)).activity =
      if (course world m (k + 1)).status = .running then [(course world m (k + 1)).attempted]
      else [] := by
  rw [(step_shows (course world m k)).2, ← status_course_succ, ← upcoming_course_succ]
  split_ifs with h
  · rw [attempted_eq_upcoming (halted_eq_false_of_status (.inl h))]
  · rfl

lemma begun_add_one (run : Nat → Machine δ) (n : Nat) :
    begun run (n + 1) =
      begun run n ++ if (run n).status = .running then [(run n).attempted] else [] := by
  rw [begun, List.range_succ, List.filter_append, List.map_append, ← begun]
  split_ifs with h <;> simp [h]

lemma announced_add_one (run : Nat → Machine δ) (n : Nat) :
    announced run (n + 1) = announced run n ++ previews (step (run n)).activity := by
  simp [announced, List.range_succ]

/-- All instructions that are begun have been announced, one after the other, but for the first. -/
lemma begun_course (h : m.status = .running) :
    begun (course world m) (k + 1) = m.attempted :: announced (course world m) k := by
  induction k with
  | zero =>
    have hfirst : (course world m 0).status = .running := h
    rw [begun_add_one, if_pos hfirst]
    rfl
  | succ k ih =>
    rw [begun_add_one, ih, announced_add_one, previews_course, List.cons_append]

/-- No program is loaded any more. -/
lemma reached_course {mayLoad : Machine δ → Prop} (h : Reached mayLoad m) :
    Reached mayLoad (course world m k) := by
  induction k with
  | zero => exact h
  | succ k ih => exact ih.step.arrive (world k)

end Course

/-- A program is loaded into a new machine, which then takes any number of steps, whatever the
device does. Whenever a step leaves the machine running, one instruction is announced, and it is the
one that the next step tries: the very word that it fetches, or none if it cannot fetch any. A step
that leaves the machine blocked or halted announces nothing; if the machine is blocked, the next
step tries the same instruction again. So the instructions that are begun are the first one and then
those that were announced, each of them announced once and before it is begun. The text says that
there is no such instruction just if the next step fails to begin one. All this is invisible on the
bus. -/
theorem announced_before_begun (program : List InstructionWord) (device : δ)
    (world : Nat → δ → δ) (k : Nat) :
    let run := course world (loadProgram program (new device)).state
    ((step (run k)).result = .ok .running →
      (run (k + 1)).halted = false ∧
        previews (step (run k)).activity = [(run (k + 1)).attempted]) ∧
    ((step (run k)).result ≠ .ok .running → previews (step (run k)).activity = []) ∧
    ((step (run k)).result = .ok .blocked →
      (step (run k)).state.core.ir.opcode = 0x60 ∧
        (run (k + 1)).attempted = (run k).attempted) ∧
    begun run (k + 1) = (run 0).attempted :: announced run k ∧
    ((run k).halted = false → (run k).IsShownRight ∧ (run k).UsesBus) := by
  intro run
  have hresult : (step (run k)).result = .ok (run (k + 1)).status := (step_shows (run k)).1
  have hpreviews := previews_course (m := (loadProgram program (new device)).state) world k
  refine ⟨?_, ?_, ?_, begun_course world k rfl, fun running => ?_⟩
  · intro h
    have hstatus : (run (k + 1)).status = .running := Except.ok.inj (hresult.symm.trans h)
    rw [if_pos hstatus] at hpreviews
    exact ⟨halted_eq_false_of_status (.inl hstatus), hpreviews⟩
  · intro h
    have hstatus : (run (k + 1)).status ≠ .running := by
      rintro hstatus
      exact h (hstatus ▸ hresult)
    rw [if_neg hstatus] at hpreviews
    exact hpreviews
  · intro h
    have hstatus : (run (k + 1)).status = .blocked := Except.ok.inj (hresult.symm.trans h)
    have hfresh : (run k).IsFresh :=
      (reached_course world k ((Reached.new device).load nofun program)).isFresh fun _ h => h
    obtain ⟨hop, hupcoming⟩ := upcoming_of_blocked hfresh h
    refine ⟨hop, ?_⟩
    rw [attempted_eq_upcoming (halted_eq_false_of_status (.inr hstatus)), upcoming_course_succ,
      hupcoming, attempted_eq_upcoming (running_of_step (m := run k) (by simp [h]))]
  · exact ⟨isShownRight running, usesBus running⟩

end Machine

end LectureMachine
