import LectureMachine.Proofs.Machine.Blocking
import LectureMachine.Proofs.Instruction.Change

/-!
# What can go wrong

Whether a step ends in a fault can be told before the step is taken, from the instruction pointer,
the instruction word and the registers. The bus never sees an access that would cross the edge of a
page or have a width that it does not know, so that some faults are there for the host alone.
-/

namespace LectureMachine

open Transition

/-- A fault that a program can bring about. If a register is missed, it is the one after the
last. -/
def Fault.CanArise : Fault → Prop
  | .illegalInstruction _ | .misaligned _ _ | .divisionByZero => True
  | .registerOutOfRange index => index = 256
  | .crossesPage _ _ | .invalidWidth _ | .invalidField _ => False

lemma FlatMemory.canArise_of_misalignment? {address : Word} {width : Nat} {f : Fault}
    (h : misalignment? address width = some f) : f.CanArise := by
  rw [misalignment?] at h
  split_ifs at h
  obtain rfl := Option.some.inj h
  trivial

/-- All refusals can come about. -/
lemma Instruction.canArise_of_refusal? {i : Instruction} {field : OperandField} {alu : Alu}
    {f : Fault} (h : i.refusal? field alu = some f) : f.CanArise := by
  cases i with
  | fetch width signed addressing => exact FlatMemory.canArise_of_misalignment? h
  | store width addressing => exact FlatMemory.canArise_of_misalignment? h
  | divideUnsigned x | divideSigned x =>
    rw [refusal?] at h
    split_ifs at h with hrange hzero
    · obtain rfl := Option.some.inj h
      rfl
    · obtain rfl := Option.some.inj h
      trivial
  | _ => cases h

namespace Machine

variable {δ : Type}

/-- The word in the four bytes that the instruction pointer points to. -/
def word (m : Machine δ) : InstructionWord :=
  BitVec.ofNat 32 (FlatMemory.value m.core.memory.byte m.core.ip 4)

/-- What is wrong with the next instruction, if anything is. What comes first is what stops the
machine. -/
def flaw? (m : Machine δ) : Option Fault :=
  if ¬ 4 ∣ m.core.ip.toNat then some (.misaligned m.core.ip 4)
  else
    match Instruction.ofOpcode? m.word.opcode with
    | none => some (.illegalInstruction m.word.opcode)
    | some i => i.refusal? m.word.field m.core.alu

lemma flaw?_of_misaligned {m : Machine δ} (h : ¬ 4 ∣ m.core.ip.toNat) :
    m.flaw? = some (.misaligned m.core.ip 4) := by
  rw [flaw?, if_pos h]

lemma flaw?_of_illegal {m : Machine δ} (h : 4 ∣ m.core.ip.toNat)
    (hi : Instruction.ofOpcode? m.word.opcode = none) :
    m.flaw? = some (.illegalInstruction m.word.opcode) := by
  rw [flaw?, if_neg (not_not.mpr h), hi]

lemma flaw?_of_legal {m : Machine δ} {i : Instruction} (h : 4 ∣ m.core.ip.toNat)
    (hi : Instruction.ofOpcode? m.word.opcode = some i) :
    m.flaw? = i.refusal? m.word.field m.core.alu := by
  rw [flaw?, if_neg (not_not.mpr h), hi]

lemma canArise_of_flaw? {m : Machine δ} {f : Fault} (h : m.flaw? = some f) : f.CanArise := by
  by_cases haligned : 4 ∣ m.core.ip.toNat
  swap
  · rw [flaw?_of_misaligned haligned] at h
    obtain rfl := Option.some.inj h
    trivial
  cases hi : Instruction.ofOpcode? m.word.opcode with
  | none =>
    rw [flaw?_of_illegal haligned hi] at h
    obtain rfl := Option.some.inj h
    trivial
  | some i =>
    rw [flaw?_of_legal haligned hi] at h
    exact Instruction.canArise_of_refusal? h

/-! ### The word that comes next -/

/-- A word can be fetched just if the instruction pointer is aligned. -/
lemma peek_ip (m : Machine δ) :
    m.core.memory.peek m.core.ip 4 =
      if 4 ∣ m.core.ip.toNat then
        .ok (BitVec.ofNat 64 (FlatMemory.value m.core.memory.byte m.core.ip 4))
      else .error (.misaligned m.core.ip 4) := by
  rw [Memory.peek_eq, FlatMemory.refusal?_eq_misalignment? (by decide), FlatMemory.misalignment?]
  split_ifs <;> rfl

lemma nextWord_eq (m : Machine δ) :
    m.nextWord = if 4 ∣ m.core.ip.toNat then some m.word else none := by
  rw [nextWord, peek_ip]
  split_ifs with haligned
  · have hword : (BitVec.ofNat 64 (FlatMemory.value m.core.memory.byte m.core.ip 4)).setWidth 32
        = m.word := by
      apply BitVec.eq_of_toNat_eq
      rw [word, BitVec.toNat_setWidth, BitVec.toNat_ofNat, BitVec.toNat_ofNat]
      omega
    simp only [hword]
  · rfl

lemma flaw?_of_nextWord {m : Machine δ} {w : InstructionWord} {i : Instruction}
    (hword : m.nextWord = some w) (hi : Instruction.ofOpcode? w.opcode = some i) :
    m.flaw? = i.refusal? w.field m.core.alu := by
  rw [nextWord_eq] at hword
  split_ifs at hword with haligned
  obtain rfl := Option.some.inj hword
  exact flaw?_of_legal haligned hi

/-! ### Faults -/

variable [Device δ]

section Legal

variable {m : Machine δ} {w : InstructionWord} {i : Instruction} (hword : m.nextWord = some w)
  (hi : Instruction.ofOpcode? w.opcode = some i)

include hword hi

lemma executeCurrent_of_refused {f : Fault} (h : i.refusal? w.field m.core.alu = some f) :
    (executeCurrent m).result = .error f := by
  obtain ⟨v, he⟩ := executeCurrent_of_nextWord hword
  rw [InstructionWord.execute_of_some hi] at he
  rw [he]
  exact Instruction.execute_of_refused (m := { m with core.ir := w }) ⟨_, hi⟩ h

/-- An instruction that is not refused carries out its change. -/
lemma executeCurrent_of_allowed (h : i.refusal? w.field m.core.alu = none) :
    (executeCurrent m).result = .ok () ∧
      (executeCurrent m).state =
        Change.carriedOut
          { i.change w.field { m with core.ir := w } with
            target := i.target? w.field { m.core with ir := w } }
          { m with core.ir := w } := by
  obtain ⟨v, he⟩ := executeCurrent_of_nextWord hword
  rw [InstructionWord.execute_of_some hi] at he
  rw [he]
  exact Instruction.execute_of_allowed (m := { m with core.ir := w }) ⟨_, hi⟩ h

lemma pendingFault?_of_legal : m.pendingFault? = i.refusal? w.field m.core.alu := by
  cases hrefusal : i.refusal? w.field m.core.alu with
  | some f => rw [pendingFault?, executeCurrent_of_refused hword hi hrefusal]
  | none => rw [pendingFault?, (executeCurrent_of_allowed hword hi hrefusal).1]

end Legal

/-- The fault that a step ends in is the first thing that is wrong with the instruction. -/
lemma pendingFault?_eq_flaw? (m : Machine δ) : m.pendingFault? = m.flaw? := by
  by_cases haligned : 4 ∣ m.core.ip.toNat
  swap
  · have hpeek := m.peek_ip
    rw [if_neg haligned] at hpeek
    rw [pendingFault?, executeCurrent_of_error hpeek, flaw?_of_misaligned haligned]
  have hword := m.nextWord_eq
  rw [if_pos haligned] at hword
  cases hi : Instruction.ofOpcode? m.word.opcode with
  | none =>
    obtain ⟨v, he⟩ := executeCurrent_of_nextWord hword
    rw [InstructionWord.execute_of_none hi] at he
    rw [pendingFault?, he, flaw?_of_illegal haligned hi]
    rfl
  | some i => rw [pendingFault?_of_legal hword hi, flaw?_of_legal haligned hi]

/-- All faults that a machine remembers are such that can arise. -/
def FaultsCanArise (m : Machine δ) : Prop := ∀ f ∈ m.fault, f.CanArise

lemma FaultsCanArise.step {m : Machine δ} (h : m.FaultsCanArise) :
    (step m).state.FaultsCanArise := by
  cases running : m.halted with
  | true =>
    rw [step_of_halted running]
    exact h
  | false =>
    intro f hf
    rw [fault_step m running, pendingFault?_eq_flaw?] at hf
    cases hflaw : m.flaw? with
    | none =>
      rw [hflaw] at hf
      exact h f hf
    | some f' =>
      rw [hflaw] at hf
      obtain rfl := Option.some.inj hf
      exact canArise_of_flaw? hflaw

/-- A step ends in a fault just if something is wrong with the instruction, and then in that which
is wrong first. No step and no run ends in a fault that cannot arise. -/
theorem fault_step_eq_flaw (m : Machine δ) (running : m.halted = false) :
    (step m).state.fault = m.flaw?.or m.fault ∧
      (∀ f, m.flaw? = some f → (step m).result = .ok .halted ∧ f.CanArise) ∧
      (m.FaultsCanArise → ∀ limit, (runFor limit m).state.FaultsCanArise) := by
  rw [← pendingFault?_eq_flaw?]
  refine ⟨fault_step m running, ?_, ?_⟩
  · intro f hf
    rw [step_of_pendingFault? running hf]
    exact ⟨rfl, canArise_of_flaw? (m.pendingFault?_eq_flaw? ▸ hf)⟩
  · intro h limit
    exact runFor_preserves (fun _ => FaultsCanArise.step) limit h

/-- Four bytes are fetched from the address 2. -/
theorem fault_step_fetch :
    (loadProgram [0x19020003] (new ({} : Buffered))).state.flaw? = some (.misaligned 2 4) ∧
      (step (loadProgram [0x19020003] (new ({} : Buffered))).state).state.fault
        = some (.misaligned 2 4) := by
  have hword : (loadProgram [0x19020003] (new ({} : Buffered))).state.nextWord
      = some 0x19020003 :=
    nextWord_loadProgram (i := 0) (by decide) (by decide) rfl
  have hopcode : Instruction.ofOpcode? (InstructionWord.opcode 0x19020003)
      = some (.fetch 4 false .displaced) := by
    rw [Instruction.ofOpcode?_eq_lookup]
    decide
  have hflaw : (loadProgram [0x19020003] (new ({} : Buffered))).state.flaw?
      = some (.misaligned 2 4) := by
    rw [flaw?_of_nextWord hword hopcode]
    decide
  obtain ⟨hfault, -, -⟩ :=
    fault_step_eq_flaw (loadProgram [0x19020003] (new ({} : Buffered))).state rfl
  rw [hfault, hflaw]
  exact ⟨rfl, rfl⟩

end Machine

end LectureMachine
