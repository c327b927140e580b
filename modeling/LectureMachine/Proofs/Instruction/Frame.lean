import LectureMachine.Proofs.Instruction.Change
import LectureMachine.Device.Buffered

/-!
# What an instruction leaves alone

Every operation has registers that its results go to, flags that it may set or clear, and, if it is
a store, bytes that it writes. All the rest of the machine is as it was when the operation is over,
whether it ends in a fault or not.
-/

namespace LectureMachine

open Transition

variable {δ : Type}

/-- Flags that are the same but for those in a mask. -/
structure Flags.SameBut (mask before after : Flags) : Prop where
  zero : mask.zero = false → after.zero = before.zero
  carry : mask.carry = false → after.carry = before.carry
  overflow : mask.overflow = false → after.overflow = before.overflow
  sign : mask.sign = false → after.sign = before.sign

lemma Flags.SameBut.refl (mask flags : Flags) : mask.SameBut flags flags :=
  ⟨fun _ => rfl, fun _ => rfl, fun _ => rfl, fun _ => rfl⟩

lemma Flags.SameBut.eq {before after : Flags} (h : ({} : Flags).SameBut before after) :
    after = before := by
  rcases before with ⟨zero, carry, overflow, sign⟩
  rcases after with ⟨zero', carry', overflow', sign'⟩
  obtain ⟨hzero, hcarry, hoverflow, hsign⟩ := h
  obtain rfl : zero' = zero := hzero rfl
  obtain rfl : carry' = carry := hcarry rfl
  obtain rfl : overflow' = overflow := hoverflow rfl
  obtain rfl : sign' = sign := hsign rfl
  rfl

namespace Instruction

/-- The registers that the results of an operation go to. -/
def destinations (i : Instruction) (field : OperandField) : List Register :=
  match i with
  | .add _ | .subtract _ | .multiply _ | .bitOr | .bitAnd | .shiftLeft _ | .shiftRight _
  | .shiftRightSigned _ | .loadUnsigned | .loadSigned | .loadShifted | .fetch .. => [field.rz]
  | .bitNot | .jumpAbsolute => [field.ry]
  | .getc => [field.rx]
  | .divideUnsigned _ => field.rz :: [1, 2].filterMap field.rz.after?
  | .divideSigned _ => field.rz :: [1].filterMap field.rz.after?
  | .halt _ | .jumpRelative _ | .putc _ | .nop | .store .. => []

/-- The flags that an operation may change. -/
def marks : Instruction → Flags
  | .add _ | .subtract _ => { zero := true, carry := true, overflow := true, sign := true }
  | .multiply _ => { carry := true, overflow := true }
  | .shiftLeft _ => { carry := true }
  | .bitOr | .bitAnd | .bitNot | .loadUnsigned | .loadSigned | .loadShifted => { zero := true }
  | _ => {}

/-- An operation stores something at an address. -/
def StoresAt (i : Instruction) (field : OperandField) (alu : Alu) (x : Word) : Prop :=
  match i with
  | .store width addressing =>
    (addressing.destination field alu).toNat ≤ x.toNat ∧
      x.toNat < (addressing.destination field alu).toNat + width
  | _ => False

/-- What an operation leaves alone. -/
structure Frame (i : Instruction) (field : OperandField) (before after : Machine δ) : Prop where
  register : ∀ r ∉ i.destinations field, after.core.alu.peek r = before.core.alu.peek r
  register_zero : before.core.alu.peek 0 = 0 → after.core.alu.peek 0 = 0
  flags : i.marks.SameBut before.core.alu.flags after.core.alu.flags
  /-- A product may set carry and overflow, but it does not clear them. -/
  product : ∀ x, i = .multiply x →
    (before.core.alu.flags.carry → after.core.alu.flags.carry) ∧
      (before.core.alu.flags.overflow → after.core.alu.flags.overflow)
  byte : ∀ x, ¬ i.StoresAt field before.core.alu x →
    after.core.memory.byte x = before.core.memory.byte x
  place : i.target? field before.core = none →
    after.core.ip = before.core.ip ∧ after.core.jumped = before.core.jumped
  exit : (∀ code, i ≠ .halt code) →
    after.halted = before.halted ∧ after.exitCode = before.exitCode
  blocked : i ≠ .getc → after.blocked = before.blocked
  device : i ≠ .getc → (∀ byte, i ≠ .putc byte) → after.device = before.device
  steps : after.steps = before.steps
  fault : after.fault = before.fault ∧ after.errorMessage = before.errorMessage
  ir : after.core.ir = before.core.ir

lemma Frame.refl (i : Instruction) (field : OperandField) (m : Machine δ) : i.Frame field m m where
  register _ _ := rfl
  register_zero h := h
  flags := .refl _ _
  product _ _ := ⟨id, id⟩
  byte _ _ := rfl
  place _ := ⟨rfl, rfl⟩
  exit _ := ⟨rfl, rfl⟩
  blocked _ := rfl
  device _ _ := rfl
  steps := rfl
  fault := ⟨rfl, rfl⟩
  ir := rfl

/-! ### The parts of a change -/

section Change

variable [Device δ] (i : Instruction) (field : OperandField) (m : Machine δ)

/-- Results go to destinations. The registers of a quotient follow one another, which only an
operation that is allowed makes sure of. -/
lemma mem_destinations (hallowed : i.refusal? field m.core.alu = none) {r : Register}
    (h : r ∈ (i.change field m).alu.writes.map (·.1)) : r ∈ i.destinations field := by
  cases i with
  | getc =>
    simp only [change] at h
    split at h
    · exact h
    · cases h
  | divideUnsigned x =>
    rw [refusal?] at hallowed
    split_ifs at hallowed with hrange hzero
    have hnext : field.rz.after? 1 = some (field.rz + 1) := Register.after?_of_lt (by omega)
    have hlast : field.rz.after? 2 = some (field.rz + 2) := Register.after?_of_lt (by omega)
    -- The remainder is written last and is therefore the first of the results.
    simp only [change, Alu.Results.wideQuotient, List.map_cons, List.map_nil] at h
    simp only [destinations, List.filterMap_cons, hnext, hlast, List.filterMap_nil]
    exact (List.reverse_perm [field.rz, field.rz + 1, field.rz + 2]).mem_iff.mp h
  | divideSigned x =>
    rw [refusal?] at hallowed
    split_ifs at hallowed with hrange hzero
    have hnext : field.rz.after? 1 = some (field.rz + 1) := Register.after?_of_lt (by omega)
    simp only [change, Alu.Results.signedQuotient, List.map_cons, List.map_nil] at h
    simp only [destinations, List.filterMap_cons, hnext, List.filterMap_nil]
    exact (List.reverse_perm [field.rz, field.rz + 1]).mem_iff.mp h
  | halt | jumpRelative | putc | nop | store => cases h
  | _ => exact h

lemma sameBut_marks (flags : Flags) :
    i.marks.SameBut flags ((i.change field m).alu.flags flags) := by
  cases i with
  | add | subtract =>
    exact ⟨Bool.noConfusion, Bool.noConfusion, Bool.noConfusion, Bool.noConfusion⟩
  | bitOr | bitAnd | bitNot | loadUnsigned | loadSigned | loadShifted =>
    exact ⟨Bool.noConfusion, fun _ => rfl, fun _ => rfl, fun _ => rfl⟩
  | multiply x =>
    simp only [change, Alu.Results.product]
    split
    · exact .refl _ _
    · exact ⟨fun _ => rfl, Bool.noConfusion, Bool.noConfusion, fun _ => rfl⟩
  | shiftLeft amount =>
    simp only [change, Alu.Results.shiftedLeft]
    split
    · exact ⟨fun _ => rfl, Bool.noConfusion, fun _ => rfl, fun _ => rfl⟩
    · exact .refl _ _
  | getc =>
    simp only [change]
    split <;> exact .refl _ _
  | _ => exact .refl _ _

lemma byte_of_not_storesAt {x : Word} (h : ¬ i.StoresAt field m.core.alu x) (f : FlatMemory) :
    (match (i.change field m).stored with
      | some (address, width, v) => f.put address width v
      | none => f) x = f x := by
  cases i with
  | store width addressing => exact if_neg h
  | _ => rfl

lemma exitCode_change (h : ∀ code, i ≠ .halt code) : (i.change field m).exitCode = none := by
  cases i with
  | halt code => exact absurd rfl (h code)
  | _ => rfl

lemma blocked_change (h : i ≠ .getc) : (i.change field m).blocked = none := by
  cases i with
  | getc => exact absurd rfl h
  | _ => rfl

lemma device_change (h : i ≠ .getc) (hputc : ∀ byte, i ≠ .putc byte) :
    (i.change field m).device = none := by
  cases i with
  | getc => exact absurd rfl h
  | putc byte => exact absurd rfl (hputc byte)
  | _ => rfl

/-- A change concerns the destinations and the marks alone. -/
lemma frame_of_leads {after : Machine δ} (hallowed : i.refusal? field m.core.alu = none)
    (h : Change.Leads { i.change field m with target := i.target? field m.core } m after) :
    i.Frame field m after where
  register r hr := by
    rw [h.register]
    exact Alu.Results.value_of_notMem (fun hmem => hr (i.mem_destinations field m hallowed hmem)) _
  register_zero hzero := by
    rw [h.register, Alu.Results.value]
    split
    · rfl
    · exact hzero
  flags := by
    rw [h.flags]
    exact i.sameBut_marks field m _
  product x hx := by
    subst hx
    rw [h.flags]
    simp only [change, Alu.Results.product]
    split
    · exact ⟨id, id⟩
    · exact ⟨fun _ => rfl, fun _ => rfl⟩
  byte x hx := by
    rw [h.byte]
    exact i.byte_of_not_storesAt field m hx _
  place htarget := by
    have hplace := h.place
    rw [htarget] at hplace
    exact Prod.mk.inj hplace
  exit hhalt := by
    have hcode := i.exitCode_change field m hhalt
    rw [h.halted, h.exitCode, hcode]
    exact ⟨rfl, rfl⟩
  blocked hgetc := by
    rw [h.blocked, i.blocked_change field m hgetc]
    rfl
  device hgetc hputc := by
    rw [h.device, i.device_change field m hgetc hputc]
    rfl
  steps := h.steps
  fault := ⟨h.fault, h.errorMessage⟩
  ir := h.ir

end Change

variable [Device δ]

/-- An operation that faults changes nothing; all others carry out their change. -/
lemma frame_of_legal {i : Instruction} (legal : i.Legal) (field : OperandField) (m : Machine δ) :
    i.Frame field m (i.execute field m).state := by
  cases hr : (i.execute field m).result with
  | error f =>
    rw [i.execute_precise field hr]
    exact .refl i field m
  | ok _ => exact i.frame_of_leads field m (refusal?_eq_none legal hr) (leads_execute legal hr)

end Instruction

/-! ### The frame of an instruction word -/

namespace InstructionWord

variable [Device δ]

/-- Whatever the machine, an instruction leaves alone what is not in its frame. -/
theorem frame_execute {word : InstructionWord} {i : Instruction} (m : Machine δ)
    (legal : Instruction.ofOpcode? word.opcode = some i) :
    i.Frame word.field m (word.execute m).state := by
  rw [execute_of_some legal]
  exact Instruction.frame_of_legal ⟨_, legal⟩ word.field m

/-- A machine with values in its registers and its memory, and with flags that are set. -/
def furnished : Machine Buffered where
  core :=
    { alu :=
        { ((({} : Alu).poke 1 16).poke 2 0xABCD).poke 3 7 with
          flags := { zero := true, sign := true } }
      memory := ({} : Memory).storeProgram 0 (List.replicate 8 0x11223344) }
  device := {}

/-- Two bytes are stored at the address 24. The byte at the address 26, all registers and the flags
are as they were. -/
theorem frame_execute_store :
    Instruction.ofOpcode? (opcode 0x2A020801) = some (.store 2 .displaced) ∧
      (execute 0x2A020801 furnished).state.core.memory.byte 26 = 0x33 ∧
      (∀ r, (execute 0x2A020801 furnished).state.core.alu.peek r = furnished.core.alu.peek r) ∧
      furnished.core.alu.peek 2 = 0xABCD ∧
      (execute 0x2A020801 furnished).state.core.alu.flags = { zero := true, sign := true } := by
  have hopcode : Instruction.ofOpcode? (opcode 0x2A020801) = some (.store 2 .displaced) := by
    rw [Instruction.ofOpcode?_eq_lookup]
    decide
  have hbyte : furnished.core.memory.byte 26 = 0x33 := by
    rw [furnished, Memory.byte_storeProgram]
    decide
  have hframe := frame_execute furnished hopcode
  refine ⟨hopcode, (hframe.byte 26 ?_).trans hbyte, fun r => hframe.register r ?_, by decide,
    hframe.flags.eq⟩
  · rintro ⟨-, hlt⟩
    exact absurd hlt (by decide)
  · exact List.not_mem_nil

end InstructionWord

end LectureMachine
