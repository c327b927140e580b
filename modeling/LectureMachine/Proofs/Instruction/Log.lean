import LectureMachine.Proofs.Transition.Log
import LectureMachine.Proofs.Instruction.Change

/-!
# Logged instructions

All instructions are logged: no register and no byte of the memory is used or changed behind the
back of the onlookers. This goes from the accesses over the operations of the arithmetic unit and of
the core to the instructions, along their definitions.
-/

namespace LectureMachine

open Transition

/-! ### Kinds of activity -/

namespace Activity

/-- An access to a register. -/
def IsRegister (a : Activity) : Prop := ∃ e, a = .register e

/-- Something done to the registers or the device. -/
def IsOffBus : Activity → Prop
  | .register _ | .device _ => True
  | .memory _ | .machine _ => False

/-- Something done to a part of the machine, not said about the machine as a whole. -/
def IsInner : Activity → Prop
  | .register _ | .memory _ | .device _ => True
  | .machine _ => False

lemma IsRegister.isAccess {a : Activity} (h : a.IsRegister) : a.IsAccess := by
  obtain ⟨e, rfl⟩ := h
  trivial

lemma IsRegister.isOffBus {a : Activity} (h : a.IsRegister) : a.IsOffBus := by
  obtain ⟨e, rfl⟩ := h
  trivial

lemma IsAccess.isInner {a : Activity} (h : a.IsAccess) : a.IsInner := by
  cases a with
  | machine e => exact h
  | _ => trivial

lemma IsOffBus.isInner {a : Activity} (h : a.IsOffBus) : a.IsInner := by
  cases a with
  | machine e => exact h
  | _ => trivial

end Activity

open Activity (IsRegister IsAccess IsOffBus IsInner)

/-! ### The arithmetic unit -/

namespace Alu

/-- The registers, beside a memory that is none of the arithmetic unit's business. -/
def storage (bytes : FlatMemory) (alu : Alu) : Storage := ⟨alu.peek, bytes⟩

/-- An operation of the arithmetic unit is logged. It depends on the flags besides. -/
abbrev Logs {α : Type} (t : Transition Alu α) : Prop :=
  ∀ bytes, Logged IsRegister (storage bytes) flags t

variable {α β : Type}

lemma logs_pure (a : α) : Logs (pure a) := fun _ => logged_pure a

lemma Logs.bind {t : Transition Alu α} {next : α → Transition Alu β} (ht : Logs t)
    (hnext : ∀ a, Logs (next a)) : Logs (t >>= next) :=
  fun bytes => (ht bytes).bind fun a => hnext a bytes

lemma Logs.ite {c : Prop} [Decidable c] {t u : Transition Alu α} (ht : Logs t) (hu : Logs u) :
    Logs (if c then t else u) :=
  fun bytes => (ht bytes).ite (hu bytes)

lemma logs_read (r : Register) : Logs (read r) := by
  intro bytes
  constructor
  · intro alu a ha
    rw [read_apply, List.mem_singleton] at ha
    exact ⟨_, ha⟩
  · intro alu
    exact ⟨rfl, rfl, trivial⟩
  · rintro alu alu' hflags ⟨hvalue, -⟩
    have hvalue : alu.peek r = alu'.peek r := hvalue
    rw [read_apply, read_apply, hvalue]
    exact ⟨rfl, rfl, hflags⟩

lemma peek_write (r : Register) (v : Word) (alu : Alu) :
    (write r v alu).state.peek = Function.update alu.peek r (if r = 0 then 0 else v) := by
  funext r'
  simp only [write_apply, peek, Fin.getElem_fin, Vector.getElem_set, Function.update_apply,
    Fin.ext_iff, eq_comm]

lemma logs_write (r : Register) (v : Word) : Logs (write r v) := by
  intro bytes
  constructor
  · intro alu a ha
    rw [write_apply, List.mem_singleton] at ha
    exact ⟨_, ha⟩
  · intro alu
    refine ⟨?_, trivial, trivial⟩
    rw [storage, storage, peek_write]
    rfl
  · intro alu alu' hflags _
    exact ⟨rfl, rfl, hflags⟩

lemma logs_mark (f : Flags → Flags) : Logs (mark f) :=
  fun _ => logged_modify (fun _ => rfl) fun _ _ hflags => congrArg f hflags

lemma logs_load (r : Register) (v : Word) : Logs (load r v) :=
  (logs_write r v).bind fun _ => logs_mark _

lemma logs_loadShifted (field : OperandField) : Logs (loadShifted field) :=
  (logs_read _).bind fun _ => logs_load _ _

lemma logs_shiftLeft (amount v : Word) (r : Register) : Logs (shiftLeft amount v r) :=
  (logs_write _ _).bind fun _ => (logs_mark _).ite (logs_pure _)

lemma logs_add (x y : Word) (r : Register) : Logs (add x y r) :=
  (logs_write _ _).bind fun _ => logs_mark _

lemma logs_subtract (x y : Word) (r : Register) : Logs (subtract x y r) :=
  (logs_write _ _).bind fun _ => logs_mark _

lemma logs_multiply (x y : Word) (r : Register) : Logs (multiply x y r) :=
  (logs_write _ _).bind fun _ => (logs_mark _).ite (logs_pure _)

lemma logs_bitAnd (field : OperandField) : Logs (bitAnd field) :=
  (logs_read _).bind fun _ => (logs_read _).bind fun _ => logs_load _ _

lemma logs_bitOr (field : OperandField) : Logs (bitOr field) :=
  (logs_read _).bind fun _ => (logs_read _).bind fun _ => logs_load _ _

lemma logs_bitNot (field : OperandField) : Logs (bitNot field) :=
  (logs_read _).bind fun _ => logs_load _ _

lemma logs_following (r : Register) (n : Nat) : Logs (following r n) := by
  rw [following]
  cases r.after? n with
  | some r' => exact logs_pure r'
  | none => exact fun _ => logged_fault _

/-- The reads that come before a fault are logged as well. -/
lemma logs_divideUnsigned (divisor : Word) (dividend r : Register) :
    Logs (divideUnsigned divisor dividend r) := by
  apply (logs_read _).bind
  intro low
  apply (logs_following _ _).bind
  intro next
  apply (logs_read _).bind
  intro high
  apply (logs_following _ _).bind
  intro quotientHigh
  apply (logs_following _ _).bind
  intro remainder
  split
  · exact fun _ => logged_fault_bind _ _
  · apply (logs_write _ _).bind
    intro _
    exact (logs_write _ _).bind fun _ => logs_write _ _

lemma logs_divideSigned (divisor dividend : Word) (r : Register) :
    Logs (divideSigned divisor dividend r) := by
  apply (logs_following _ _).bind
  intro remainder
  split
  · exact fun _ => logged_fault_bind _ _
  · exact (logs_write _ _).bind fun _ => logs_write _ _

end Alu

/-! ### The memory -/

namespace Memory

/-- The bytes, beside registers that are none of the memory's business. -/
def storage (registers : Register → Word) (m : Memory) : Storage := ⟨registers, m.byte⟩

variable (registers : Register → Word)

lemma logged_read (address : Word) (width : Nat) :
    Logged IsAccess (storage registers) (fun _ => ()) (read address width) := by
  constructor
  · exact (looks_read address width).emits
  · intro m
    rw [read_apply, peek_eq]
    cases h : FlatMemory.refusal? address width with
    | some f => exact .nil _
    | none =>
      have hwidth := FlatMemory.le_eight_of_refusal?_eq_none h
      refine ⟨rfl, ?_, trivial⟩
      exact Nat.mod_eq_of_lt (FlatMemory.value_lt m.byte address hwidth)
  · intro m m' _ hattests
    rw [read_apply, peek_eq] at hattests ⊢
    rw [read_apply, peek_eq]
    cases h : FlatMemory.refusal? address width with
    | some f => exact ⟨rfl, rfl, rfl⟩
    | none =>
      rw [h] at hattests
      have hvalue : (BitVec.ofNat 64 (FlatMemory.value m.byte address width)).toNat
        = FlatMemory.value m'.byte address width := hattests.1
      have hsame : BitVec.ofNat 64 (FlatMemory.value m'.byte address width)
          = BitVec.ofNat 64 (FlatMemory.value m.byte address width) := by
        rw [← hvalue, BitVec.ofNat_toNat, BitVec.setWidth_eq]
      rw [hsame]
      exact ⟨rfl, rfl, rfl⟩

lemma logged_write (address : Word) (width : Nat) (v : Word) :
    Logged IsAccess (storage registers) (fun _ => ()) (write address width v) := by
  constructor
  · exact (checksFirst_write address width v).emits
  · intro m
    rw [write_apply, locate_eq]
    cases h : FlatMemory.refusal? address width with
    | some f => exact .nil _
    | none =>
      refine ⟨?_, trivial, trivial⟩
      simp only [storage, byte_store_write m address width v h]
      rfl
  · intro m m' _ _
    rw [write_apply, write_apply]
    cases locate address width <;> exact ⟨rfl, rfl, rfl⟩

end Memory

/-! ### The core -/

namespace Core

/-- What the core has in store. -/
def storage (core : Core) : Storage := ⟨core.alu.peek, core.memory.byte⟩

/-- The core without what it has in store. -/
def bare (core : Core) : Core := { core with alu := { flags := core.alu.flags }, memory := {} }

lemma bare_eq_iff {core core' : Core} :
    core'.bare = core.bare ↔
      core'.alu.flags = core.alu.flags ∧ core'.ir = core.ir ∧ core'.ip = core.ip ∧
        core'.jumped = core.jumped := by
  simp [bare]

/-- Something that is done on the core is logged. -/
abbrev Logs {α : Type} (p : Activity → Prop) (t : Transition Core α) : Prop :=
  Logged p storage bare t

variable {α : Type} {p : Activity → Prop}

lemma logs_onAlu {t : Transition Alu α} (h : Alu.Logs t) : Logs IsRegister (onAlu t) := by
  constructor
  · intro core
    exact (h core.memory.byte).emits core.alu
  · intro core
    exact (h core.memory.byte).accounts core.alu
  · intro core core' hbare hattests
    obtain ⟨hflags, hrest⟩ := bare_eq_iff.mp hbare
    obtain ⟨hresult, hdone, hflags'⟩ :=
      (h core'.memory.byte).determined core.alu core'.alu hflags hattests
    exact ⟨hresult, hdone, bare_eq_iff.mpr ⟨hflags', hrest⟩⟩

lemma logs_onMemory {t : Transition Memory α}
    (h : ∀ registers, Logged p (Memory.storage registers) (fun _ => ()) t) :
    Logs p (onMemory t) := by
  constructor
  · intro core
    exact (h core.alu.peek).emits core.memory
  · intro core
    exact (h core.alu.peek).accounts core.memory
  · intro core core' hbare hattests
    obtain ⟨hresult, hdone, -⟩ :=
      (h core'.alu.peek).determined core.memory core'.memory rfl hattests
    exact ⟨hresult, hdone, hbare⟩

lemma logs_read (r : Register) : Logs IsAccess (onAlu (Alu.read r)) :=
  (logs_onAlu (Alu.logs_read r)).mono fun _ => IsRegister.isAccess

lemma logs_fetch (address : Word) (width : Nat) (signed : Bool) (r : Register) :
    Logs IsAccess (fetch address width signed r) :=
  (logs_onMemory fun _ => Memory.logged_read _ address width).bind fun _ =>
    (logs_onAlu (Alu.logs_write _ _)).mono fun _ => IsRegister.isAccess

lemma logs_fetchScaled (field : OperandField) (width scale : Nat) (signed : Bool) :
    Logs IsAccess (fetchScaled field width scale signed) :=
  (logs_read _).bind fun _ => (logs_read _).bind fun _ => logs_fetch _ _ _ _

lemma logs_fetchDisplaced (field : OperandField) (width : Nat) (signed : Bool) :
    Logs IsAccess (fetchDisplaced field width signed) :=
  (logs_read _).bind fun _ => logs_fetch _ _ _ _

lemma logs_storeScaled (field : OperandField) (width scale : Nat) :
    Logs IsAccess (storeScaled field width scale) :=
  (logs_read _).bind fun _ => (logs_read _).bind fun _ => (logs_read _).bind fun _ =>
    logs_onMemory fun _ => Memory.logged_write _ _ _ _

lemma logs_storeDisplaced (field : OperandField) (width : Nat) :
    Logs IsAccess (storeDisplaced field width) :=
  (logs_read _).bind fun _ => (logs_read _).bind fun _ =>
    logs_onMemory fun _ => Memory.logged_write _ _ _ _

lemma logs_jumpAbsolute (field : OperandField) : Logs IsRegister (jumpAbsolute field) := by
  apply logged_get_bind
  · intro core
    apply (logs_onAlu (Alu.logs_write _ _)).bind
    intro _
    apply (logs_onAlu (Alu.logs_read _)).bind
    intro target
    apply logged_modify
    · exact fun _ => rfl
    · intro core core' hbare
      obtain ⟨hflags, hir, -, -⟩ := bare_eq_iff.mp hbare
      exact bare_eq_iff.mpr ⟨hflags, hir, rfl, rfl⟩
  · intro core core' hbare
    obtain ⟨-, -, hip, -⟩ := bare_eq_iff.mp hbare
    rw [hip]

lemma logs_jumpIf (field : OperandField) (c : Condition) : Logs IsRegister (jumpIf field c) := by
  apply logged_get_bind
  · intro core
    apply Logged.ite
    · apply logged_modify
      · exact fun _ => rfl
      · intro core core' hbare
        obtain ⟨hflags, hir, hip, -⟩ := bare_eq_iff.mp hbare
        simp only [bare_eq_iff, hflags, hir, hip, and_self]
    · exact logged_pure _
  · intro core core' hbare
    obtain ⟨hflags, -, -, -⟩ := bare_eq_iff.mp hbare
    rw [holds, holds, hflags]

lemma logs_loadInstruction : Logs IsAccess loadInstruction := by
  apply logged_get_bind
  · intro core
    apply (logs_onMemory fun _ => Memory.logged_read _ core.ip 4).bind
    intro word
    apply logged_modify
    · exact fun _ => rfl
    · intro core core' hbare
      obtain ⟨hflags, -, hplace⟩ := bare_eq_iff.mp hbare
      exact bare_eq_iff.mpr ⟨hflags, rfl, hplace⟩
  · intro core core' hbare
    obtain ⟨-, -, hip, -⟩ := bare_eq_iff.mp hbare
    rw [hip]

end Core

/-! ### The machine -/

namespace Machine

variable {δ α : Type}

/-- What the machine has in store. -/
def storage (m : Machine δ) : Storage := m.core.storage

/-- The machine without what it has in store. -/
def bare (m : Machine δ) : Machine δ := { m with core := m.core.bare }

lemma bare_eq_iff {m m' : Machine δ} :
    m'.bare = m.bare ↔
      m'.core.bare = m.core.bare ∧ m'.device = m.device ∧ m'.halted = m.halted ∧
        m'.blocked = m.blocked ∧ m'.exitCode = m.exitCode ∧
        m'.errorMessage = m.errorMessage ∧ m'.fault = m.fault ∧ m'.steps = m.steps := by
  simp [bare]

/-- Something that is done on the machine is logged. -/
abbrev Logs (p : Activity → Prop) (t : Transition (Machine δ) α) : Prop := Logged p storage bare t

variable {p : Activity → Prop}

lemma logs_onCore {t : Transition Core α} (h : Core.Logs p t) :
    Logs p (onCore t : Transition (Machine δ) α) := by
  constructor
  · intro m
    exact h.emits m.core
  · intro m
    exact h.accounts m.core
  · intro m m' hbare hattests
    obtain ⟨hcore, hrest⟩ := bare_eq_iff.mp hbare
    obtain ⟨hresult, hdone, hcore'⟩ := h.determined m.core m'.core hcore hattests
    exact ⟨hresult, hdone, bare_eq_iff.mpr ⟨hcore', hrest⟩⟩

lemma logs_onAlu {t : Transition Alu α} (h : Alu.Logs t) :
    Logs IsOffBus (onAlu t : Transition (Machine δ) α) :=
  (logs_onCore (Core.logs_onAlu h)).mono fun _ => IsRegister.isOffBus

/-- The device has nothing to do with what is stored. -/
lemma logs_onDevice {t : Transition δ α} (h : ∀ d, ∃ e, (t d).activity = [.device e])
    (hp : ∀ e, p (.device e)) : Logs p (onDevice t) := by
  constructor
  · intro m a ha
    obtain ⟨e, he⟩ := h m.device
    rw [onDevice_apply, he, List.mem_singleton] at ha
    exact ha ▸ hp e
  · intro m
    obtain ⟨e, he⟩ := h m.device
    rw [onDevice_apply, he]
    exact ⟨rfl, trivial, trivial⟩
  · intro m m' hbare _
    obtain ⟨hcore, hdevice, hrest⟩ := bare_eq_iff.mp hbare
    rw [onDevice_apply, onDevice_apply, hdevice]
    exact ⟨rfl, rfl, bare_eq_iff.mpr ⟨hcore, rfl, hrest⟩⟩

end Machine

/-! ### Instructions -/

lemma Operand.logs_value (x : Operand) (immediate : OperandField → Word) (field : OperandField) :
    Alu.Logs (x.value immediate field) := by
  cases x with
  | register => exact Alu.logs_read _
  | immediate => exact Alu.logs_pure _

namespace Instruction

lemma logs_binary {operation : Word → Word → Register → Transition Alu Unit}
    (h : ∀ x y r, Alu.Logs (operation x y r)) (x : Operand) (immediate : OperandField → Word)
    (field : OperandField) : Alu.Logs (binary x immediate operation field) :=
  (x.logs_value immediate field).bind fun _ => (Alu.logs_read _).bind fun _ => h _ _ _

variable {δ : Type} [Device δ]

lemma logs_executeGetc (field : OperandField) :
    Machine.Logs IsOffBus (executeGetc field : Transition (Machine δ) Unit) := by
  have hblocked : ∀ blocked, Machine.Logs IsOffBus
      (modify ({ · with blocked := blocked }) : Transition (Machine δ) Unit) := by
    intro blocked
    apply logged_modify
    · exact fun _ => rfl
    · intro m m' hbare
      obtain ⟨hcore, hdevice, hhalted, -, hrest⟩ := Machine.bare_eq_iff.mp hbare
      exact Machine.bare_eq_iff.mpr ⟨hcore, hdevice, hhalted, rfl, hrest⟩
  apply (Machine.logs_onDevice (fun _ => ⟨_, rfl⟩) fun _ => trivial).bind
  intro ready
  apply Logged.ite
  · apply (Machine.logs_onDevice (fun _ => ⟨_, rfl⟩) fun _ => trivial).bind
    intro b
    exact (Machine.logs_onAlu (Alu.logs_write _ _)).bind fun _ => hblocked false
  · exact hblocked true

/-- What neither fetches nor stores leaves the bus alone. -/
lemma logs_execute_of_width?_eq_none {i : Instruction} (h : i.width? = none)
    (field : OperandField) :
    Machine.Logs IsOffBus (i.execute field : Transition (Machine δ) Unit) := by
  cases i with
  | fetch width signed addressing => cases h
  | store width addressing => cases h
  | halt code =>
    apply (Machine.logs_onAlu (code.logs_value _ field)).bind
    intro v
    apply logged_modify
    · exact fun _ => rfl
    · intro m m' hbare
      obtain ⟨hcore, hdevice, -, hblocked, -, hrest⟩ := Machine.bare_eq_iff.mp hbare
      exact Machine.bare_eq_iff.mpr ⟨hcore, hdevice, rfl, hblocked, rfl, hrest⟩
  | getc => exact logs_executeGetc field
  | putc byte =>
    apply (Machine.logs_onAlu (byte.logs_value _ field)).bind
    intro v
    exact Machine.logs_onDevice (fun _ => ⟨_, rfl⟩) fun _ => trivial
  | nop => exact logged_pure ()
  | add x => exact Machine.logs_onAlu (logs_binary Alu.logs_add x _ field)
  | subtract x => exact Machine.logs_onAlu (logs_binary Alu.logs_subtract x _ field)
  | multiply x => exact Machine.logs_onAlu (logs_binary Alu.logs_multiply x _ field)
  | divideUnsigned x =>
    exact Machine.logs_onAlu ((x.logs_value _ field).bind fun divisor =>
      Alu.logs_divideUnsigned divisor field.ry field.rz)
  | divideSigned x => exact Machine.logs_onAlu (logs_binary Alu.logs_divideSigned x _ field)
  | shiftLeft amount => exact Machine.logs_onAlu (logs_binary Alu.logs_shiftLeft amount _ field)
  | shiftRight amount =>
    exact Machine.logs_onAlu (logs_binary (fun _ _ _ => Alu.logs_write _ _) amount _ field)
  | shiftRightSigned amount =>
    exact Machine.logs_onAlu (logs_binary (fun _ _ _ => Alu.logs_write _ _) amount _ field)
  | bitOr => exact Machine.logs_onAlu (Alu.logs_bitOr field)
  | bitAnd => exact Machine.logs_onAlu (Alu.logs_bitAnd field)
  | bitNot => exact Machine.logs_onAlu (Alu.logs_bitNot field)
  | loadUnsigned => exact Machine.logs_onAlu (Alu.logs_load _ _)
  | loadSigned => exact Machine.logs_onAlu (Alu.logs_load _ _)
  | loadShifted => exact Machine.logs_onAlu (Alu.logs_loadShifted field)
  | jumpAbsolute =>
    exact (Machine.logs_onCore (Core.logs_jumpAbsolute field)).mono fun _ => IsRegister.isOffBus
  | jumpRelative c =>
    exact (Machine.logs_onCore (Core.logs_jumpIf field c)).mono fun _ => IsRegister.isOffBus

/-- Every instruction is logged. -/
lemma logs_execute (i : Instruction) (field : OperandField) :
    Machine.Logs IsInner (i.execute field : Transition (Machine δ) Unit) := by
  cases hi : i.width? with
  | none => exact (logs_execute_of_width?_eq_none hi field).mono fun _ => IsOffBus.isInner
  | some width =>
    have hcore : ∀ t : Transition Core Unit, Core.Logs IsAccess t →
        Machine.Logs IsInner (Machine.onCore t : Transition (Machine δ) Unit) :=
      fun t ht => (Machine.logs_onCore ht).mono fun _ => IsAccess.isInner
    cases i with
    | fetch width signed addressing =>
      cases addressing with
      | displaced => exact hcore _ (Core.logs_fetchDisplaced field width signed)
      | scaled scale => exact hcore _ (Core.logs_fetchScaled field width scale signed)
    | store width addressing =>
      cases addressing with
      | displaced => exact hcore _ (Core.logs_storeDisplaced field width)
      | scaled scale => exact hcore _ (Core.logs_storeScaled field width scale)
    | _ => cases hi

end Instruction

/-- Every instruction word is logged, also if it is no instruction. -/
lemma InstructionWord.logs_execute {δ : Type} [Device δ] (word : InstructionWord) :
    Machine.Logs IsInner (word.execute : Transition (Machine δ) Unit) := by
  cases hi : Instruction.ofOpcode? word.opcode with
  | some i =>
    rw [execute_of_some hi]
    exact i.logs_execute word.field
  | none =>
    rw [execute_of_none hi]
    exact logged_fault _

end LectureMachine
