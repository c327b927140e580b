import LectureMachine.Proofs.Transition.Frame
import LectureMachine.Machine.Execute

/-!
# What instructions can do

All instructions but three concern the core alone, and of them each checks first: a division has its
registers and its divisor before it writes the first result, a fetch has its value before it writes
the register, and a store knows its place before it writes the page. The three others stop the
machine, or talk to the device; they never fault.
-/

namespace LectureMachine

open Transition

/-- An access to a register or to the memory. -/
def Activity.IsAccess : Activity → Prop
  | .register _ | .memory _ => True
  | .device _ | .machine _ => False

open Activity (IsAccess)

/-! ### The arithmetic unit -/

namespace Alu

lemma looks_read (r : Register) : Looks IsAccess (read r) :=
  looks_get.bind fun _ => (looks_perform trivial).bind fun _ => looks_pure _

lemma runs_read (r : Register) : Runs IsAccess (read r) :=
  runs_get.bind fun _ => (runs_perform trivial).bind fun _ => runs_pure _

lemma runs_write (r : Register) (v : Word) : Runs IsAccess (write r v) :=
  (runs_perform trivial).bind fun _ => runs_modify _

lemma runs_mark (f : Flags → Flags) : Runs IsAccess (mark f) := runs_modify _

lemma runs_load (r : Register) (v : Word) : Runs IsAccess (load r v) :=
  (runs_write r v).bind fun _ => runs_mark _

lemma runs_loadShifted (field : OperandField) : Runs IsAccess (loadShifted field) :=
  (runs_read _).bind fun _ => runs_load _ _

lemma runs_shiftLeft (amount v : Word) (r : Register) : Runs IsAccess (shiftLeft amount v r) :=
  (runs_write _ _).bind fun _ => (runs_mark _).ite (runs_pure _)

lemma runs_shiftRight (amount v : Word) (r : Register) : Runs IsAccess (shiftRight amount v r) :=
  runs_write _ _

lemma runs_shiftRightSigned (amount v : Word) (r : Register) :
    Runs IsAccess (shiftRightSigned amount v r) :=
  runs_write _ _

lemma runs_add (x y : Word) (r : Register) : Runs IsAccess (add x y r) :=
  (runs_write _ _).bind fun _ => runs_mark _

lemma runs_subtract (x y : Word) (r : Register) : Runs IsAccess (subtract x y r) :=
  (runs_write _ _).bind fun _ => runs_mark _

lemma runs_multiply (x y : Word) (r : Register) : Runs IsAccess (multiply x y r) :=
  (runs_write _ _).bind fun _ => (runs_mark _).ite (runs_pure _)

lemma runs_bitAnd (field : OperandField) : Runs IsAccess (bitAnd field) :=
  (runs_read _).bind fun _ => (runs_read _).bind fun _ => runs_load _ _

lemma runs_bitOr (field : OperandField) : Runs IsAccess (bitOr field) :=
  (runs_read _).bind fun _ => (runs_read _).bind fun _ => runs_load _ _

lemma runs_bitNot (field : OperandField) : Runs IsAccess (bitNot field) :=
  (runs_read _).bind fun _ => runs_load _ _

lemma looks_following (r : Register) (n : Nat) : Looks IsAccess (following r n) := by
  rw [following]
  cases r.after? n with
  | some r' => exact looks_pure r'
  | none => exact looks_fault _

/-- All three registers are known, and the divisor is not zero, before anything is written. -/
lemma checksFirst_divideUnsigned (divisor : Word) (dividend r : Register) :
    ChecksFirst IsAccess (divideUnsigned divisor dividend r) := by
  refine (looks_read _).bind_checksFirst fun low => ?_
  refine (looks_following _ _).bind_checksFirst fun next => ?_
  refine (looks_read _).bind_checksFirst fun high => ?_
  refine (looks_following _ _).bind_checksFirst fun quotientHigh => ?_
  refine (looks_following _ _).bind_checksFirst fun remainder => ?_
  split
  · exact (looks_fault_bind _ _).checksFirst
  · apply Runs.checksFirst
    refine (runs_write _ _).bind fun _ => ?_
    exact (runs_write _ _).bind fun _ => runs_write _ _

lemma checksFirst_divideSigned (divisor dividend : Word) (r : Register) :
    ChecksFirst IsAccess (divideSigned divisor dividend r) := by
  refine (looks_following _ _).bind_checksFirst fun remainder => ?_
  split
  · exact (looks_fault_bind _ _).checksFirst
  · exact ((runs_write _ _).bind fun _ => runs_write _ _).checksFirst

end Alu

/-! ### The memory -/

namespace Memory

lemma looks_read (address : Word) (width : Nat) : Looks IsAccess (read address width) :=
  looks_get.bind fun _ => (looks_ofExcept _).bind fun _ => (looks_perform trivial).bind fun _ =>
    looks_pure _

lemma checksFirst_write (address : Word) (width : Nat) (v : Word) :
    ChecksFirst IsAccess (write address width v) :=
  (looks_ofExcept _).bind_checksFirst fun _ =>
    ((runs_modify _).bind fun _ => runs_perform trivial).checksFirst

end Memory

/-! ### The core -/

namespace Core

variable {α : Type} {p : Activity → Prop}

lemma looks_onAlu {t : Transition Alu α} (h : Looks p t) : Looks p (onAlu t) :=
  h.within fun _ => rfl

lemma looks_onMemory {t : Transition Memory α} (h : Looks p t) : Looks p (onMemory t) :=
  h.within fun _ => rfl

lemma runs_onAlu {t : Transition Alu α} (h : Runs p t) : Runs p (onAlu t) := h.within _

lemma checksFirst_onAlu {t : Transition Alu α} (h : ChecksFirst p t) : ChecksFirst p (onAlu t) :=
  h.within fun _ => rfl

lemma checksFirst_onMemory {t : Transition Memory α} (h : ChecksFirst p t) :
    ChecksFirst p (onMemory t) :=
  h.within fun _ => rfl

lemma checksFirst_fetch (address : Word) (width : Nat) (signed : Bool) (r : Register) :
    ChecksFirst IsAccess (fetch address width signed r) :=
  (looks_onMemory (Memory.looks_read _ _)).bind_checksFirst fun _ =>
    (runs_onAlu (Alu.runs_write _ _)).checksFirst

lemma checksFirst_fetchScaled (field : OperandField) (width scale : Nat) (signed : Bool) :
    ChecksFirst IsAccess (fetchScaled field width scale signed) :=
  (looks_onAlu (Alu.looks_read _)).bind_checksFirst fun _ =>
    (looks_onAlu (Alu.looks_read _)).bind_checksFirst fun _ => checksFirst_fetch _ _ _ _

lemma checksFirst_fetchDisplaced (field : OperandField) (width : Nat) (signed : Bool) :
    ChecksFirst IsAccess (fetchDisplaced field width signed) :=
  (looks_onAlu (Alu.looks_read _)).bind_checksFirst fun _ => checksFirst_fetch _ _ _ _

lemma checksFirst_storeScaled (field : OperandField) (width scale : Nat) :
    ChecksFirst IsAccess (storeScaled field width scale) :=
  (looks_onAlu (Alu.looks_read _)).bind_checksFirst fun _ =>
    (looks_onAlu (Alu.looks_read _)).bind_checksFirst fun _ =>
      (looks_onAlu (Alu.looks_read _)).bind_checksFirst fun _ =>
        checksFirst_onMemory (Memory.checksFirst_write _ _ _)

lemma checksFirst_storeDisplaced (field : OperandField) (width : Nat) :
    ChecksFirst IsAccess (storeDisplaced field width) :=
  (looks_onAlu (Alu.looks_read _)).bind_checksFirst fun _ =>
    (looks_onAlu (Alu.looks_read _)).bind_checksFirst fun _ =>
      checksFirst_onMemory (Memory.checksFirst_write _ _ _)

lemma runs_jumpAbsolute (field : OperandField) : Runs IsAccess (jumpAbsolute field) :=
  runs_get.bind fun _ => (runs_onAlu (Alu.runs_write _ _)).bind fun _ =>
    (runs_onAlu (Alu.runs_read _)).bind fun _ => runs_modify _

lemma runs_jumpIf (field : OperandField) (c : Condition) : Runs IsAccess (jumpIf field c) :=
  runs_get.bind fun _ => (runs_modify _).ite (runs_pure _)

end Core

/-! ### Operands -/

namespace Operand

/-- The operand as a function of the registers. -/
def eval (x : Operand) (immediate : OperandField → Word) (field : OperandField) (alu : Alu) :
    Word :=
  match x with
  | .register => alu.peek field.rx
  | .immediate => immediate field

/-- What is seen while the operand is read. -/
def reads (x : Operand) (field : OperandField) (alu : Alu) : List Activity :=
  match x with
  | .register => [.register (.read field.rx (alu.peek field.rx))]
  | .immediate => []

@[simp] lemma value_apply (x : Operand) (immediate : OperandField → Word) (field : OperandField)
    (alu : Alu) :
    x.value immediate field alu = ⟨.ok (x.eval immediate field alu), alu, x.reads field alu⟩ := by
  cases x <;> rfl

lemma looks_value (x : Operand) (immediate : OperandField → Word) (field : OperandField) :
    Looks IsAccess (x.value immediate field) := by
  cases x with
  | register => exact Alu.looks_read _
  | immediate => exact looks_pure _

end Operand

/-! ### Instructions -/

namespace Instruction

lemma checksFirst_binary {operation : Word → Word → Register → Transition Alu Unit}
    (h : ∀ x y r, ChecksFirst IsAccess (operation x y r)) (x : Operand)
    (immediate : OperandField → Word) (field : OperandField) :
    ChecksFirst IsAccess (binary x immediate operation field) :=
  (x.looks_value immediate field).bind_checksFirst fun _ =>
    (Alu.looks_read _).bind_checksFirst fun _ => h _ _ _

lemma checksFirst_binary_of_runs {operation : Word → Word → Register → Transition Alu Unit}
    (h : ∀ x y r, Runs IsAccess (operation x y r)) (x : Operand)
    (immediate : OperandField → Word) (field : OperandField) :
    ChecksFirst IsAccess (binary x immediate operation field) :=
  checksFirst_binary (fun x y r => (h x y r).checksFirst) x immediate field

/-- An operation that concerns the core alone, whatever the device. -/
def OnCore (i : Instruction) (field : OperandField) : Prop :=
  ∃ t : Transition Core Unit, t.ChecksFirst IsAccess ∧
    ∀ (δ : Type) [Device δ], (i.execute field : Transition (Machine δ) Unit) = Machine.onCore t

lemma onCore_of_onAlu {i : Instruction} {field : OperandField} {t : Transition Alu Unit}
    (ht : ChecksFirst IsAccess t)
    (h : ∀ (δ : Type) [Device δ],
      (i.execute field : Transition (Machine δ) Unit) = Machine.onAlu t) :
    i.OnCore field :=
  ⟨Core.onAlu t, Core.checksFirst_onAlu ht, h⟩

/-- All operations concern the core alone but those that stop the machine or talk to the device. -/
lemma onCore_of_ne (i : Instruction) (field : OperandField) (hhalt : ∀ code, i ≠ .halt code)
    (hgetc : i ≠ .getc) (hputc : ∀ byte, i ≠ .putc byte) : i.OnCore field := by
  cases i with
  | halt code => exact absurd rfl (hhalt code)
  | getc => exact absurd rfl hgetc
  | putc byte => exact absurd rfl (hputc byte)
  | nop => exact ⟨pure (), (looks_pure ()).checksFirst, fun _ _ => rfl⟩
  | add x => exact onCore_of_onAlu (checksFirst_binary_of_runs Alu.runs_add x _ _) fun _ _ => rfl
  | subtract x =>
    exact onCore_of_onAlu (checksFirst_binary_of_runs Alu.runs_subtract x _ _) fun _ _ => rfl
  | multiply x =>
    exact onCore_of_onAlu (checksFirst_binary_of_runs Alu.runs_multiply x _ _) fun _ _ => rfl
  | divideUnsigned x =>
    have h := (x.looks_value (·.ux) field).bind_checksFirst fun divisor =>
      Alu.checksFirst_divideUnsigned divisor field.ry field.rz
    exact onCore_of_onAlu h fun _ _ => rfl
  | divideSigned x =>
    exact onCore_of_onAlu (checksFirst_binary Alu.checksFirst_divideSigned x _ _) fun _ _ => rfl
  | shiftLeft amount =>
    exact onCore_of_onAlu (checksFirst_binary_of_runs Alu.runs_shiftLeft amount _ _) fun _ _ => rfl
  | shiftRight amount =>
    exact onCore_of_onAlu (checksFirst_binary_of_runs Alu.runs_shiftRight amount _ _) fun _ _ => rfl
  | shiftRightSigned amount =>
    exact onCore_of_onAlu (checksFirst_binary_of_runs Alu.runs_shiftRightSigned amount _ _)
      fun _ _ => rfl
  | bitOr => exact onCore_of_onAlu (Alu.runs_bitOr field).checksFirst fun _ _ => rfl
  | bitAnd => exact onCore_of_onAlu (Alu.runs_bitAnd field).checksFirst fun _ _ => rfl
  | bitNot => exact onCore_of_onAlu (Alu.runs_bitNot field).checksFirst fun _ _ => rfl
  | loadUnsigned => exact onCore_of_onAlu (Alu.runs_load _ _).checksFirst fun _ _ => rfl
  | loadSigned => exact onCore_of_onAlu (Alu.runs_load _ _).checksFirst fun _ _ => rfl
  | loadShifted => exact onCore_of_onAlu (Alu.runs_loadShifted field).checksFirst fun _ _ => rfl
  | jumpAbsolute => exact ⟨_, (Core.runs_jumpAbsolute field).checksFirst, fun _ _ => rfl⟩
  | jumpRelative c => exact ⟨_, (Core.runs_jumpIf field c).checksFirst, fun _ _ => rfl⟩
  | fetch width signed addressing =>
    cases addressing with
    | displaced => exact ⟨_, Core.checksFirst_fetchDisplaced field width signed, fun _ _ => rfl⟩
    | scaled scale =>
      exact ⟨_, Core.checksFirst_fetchScaled field width scale signed, fun _ _ => rfl⟩
  | store width addressing =>
    cases addressing with
    | displaced => exact ⟨_, Core.checksFirst_storeDisplaced field width, fun _ _ => rfl⟩
    | scaled scale => exact ⟨_, Core.checksFirst_storeScaled field width scale, fun _ _ => rfl⟩

/-- An operation stops the machine, or it talks to the device, or it concerns the core alone. -/
lemma execute_cases (i : Instruction) (field : OperandField) :
    (∃ code, i = .halt code) ∨ i = .getc ∨ (∃ byte, i = .putc byte) ∨ i.OnCore field := by
  by_cases hhalt : ∃ code, i = .halt code
  · exact .inl hhalt
  by_cases hgetc : i = .getc
  · exact .inr (.inl hgetc)
  by_cases hputc : ∃ byte, i = .putc byte
  · exact .inr (.inr (.inl hputc))
  right; right; right
  exact i.onCore_of_ne field (not_exists.mp hhalt) hgetc (not_exists.mp hputc)

variable {δ γ : Type} [Device δ]

lemma execute_nop_apply (field : OperandField) (m : Machine δ) :
    nop.execute field m = ⟨.ok (), m, []⟩ := rfl

lemma execute_halt_apply (code : Operand) (field : OperandField) (m : Machine δ) :
    (halt code).execute field m =
      ⟨.ok (), { m with
          exitCode := (code.eval (·.ux) field m.core.alu).setWidth 8, halted := true },
        code.reads field m.core.alu⟩ := by
  simp [execute, bind_apply]

lemma execute_putc_apply (byte : Operand) (field : OperandField) (m : Machine δ) :
    (putc byte).execute field m =
      ⟨.ok (), { m with
          device := Device.put ((byte.eval (·.ux) field m.core.alu).setWidth 8) m.device },
        byte.reads field m.core.alu
          ++ [.device (.put ((byte.eval (·.ux) field m.core.alu).setWidth 8))]⟩ := by
  simp [execute, bind_apply]

/-- Without a byte to read, the device is asked and nothing else happens. -/
lemma execute_getc_of_not_ready {m : Machine δ} (h : (Device.poll m.device).1 = false)
    (field : OperandField) :
    getc.execute field m =
      ⟨.ok (), { m with device := (Device.poll m.device).2, blocked := true },
        [.device (.poll false)]⟩ := by
  simp [execute, executeGetc, bind_apply, h]

lemma execute_getc_of_ready {m : Machine δ} (h : (Device.poll m.device).1 = true)
    (field : OperandField) :
    getc.execute field m =
      (match Device.get (Device.poll m.device).2 with
      | (b, d) =>
        ⟨.ok (), { m with
            core.alu := (Alu.write field.rx (b.setWidth 64) m.core.alu).state
            device := d
            blocked := false },
          [.device (.poll true), .device (.get b)]
            ++ (Alu.write field.rx (b.setWidth 64) m.core.alu).activity⟩) := by
  simp [execute, executeGetc, bind_apply, h]

/-- An instruction that faults leaves the machine as it was. -/
lemma execute_precise (i : Instruction) (field : OperandField) {m : Machine δ} {f : Fault}
    (h : (i.execute field m).result = .error f) : (i.execute field m).state = m := by
  rcases i.execute_cases field with ⟨code, rfl⟩ | rfl | ⟨byte, rfl⟩ | ⟨t, ht, hi⟩
  · rw [execute_halt_apply] at h
    cases h
  · cases hr : (Device.poll m.device).1 with
    | false =>
      rw [execute_getc_of_not_ready hr] at h
      cases h
    | true =>
      rw [execute_getc_of_ready hr] at h
      cases h
  · rw [execute_putc_apply] at h
    cases h
  · rw [hi, Machine.onCore_apply] at h ⊢
    rw [ht.precise _ f h]

/-- What is not the core, the device or about halting and blocking is kept by every instruction. -/
lemma keeps_execute {g : Machine δ → γ} (hcore : ∀ m core, g { m with core } = g m)
    (hdevice : ∀ m device, g { m with device } = g m)
    (hhalt : ∀ m exitCode halted, g { m with exitCode, halted } = g m)
    (hblock : ∀ m blocked, g { m with blocked } = g m) (i : Instruction) (field : OperandField) :
    Keeps g (i.execute field) := by
  intro m
  rcases i.execute_cases field with ⟨code, rfl⟩ | rfl | ⟨byte, rfl⟩ | ⟨t, ht, hi⟩
  · rw [execute_halt_apply, hhalt]
  · cases hr : (Device.poll m.device).1 with
    | false => rw [execute_getc_of_not_ready hr, ← hdevice, ← hblock]
    | true => rw [execute_getc_of_ready hr, ← hcore, ← hdevice, ← hblock]
  · rw [execute_putc_apply, hdevice]
  · rw [hi, Machine.onCore_apply, hcore]

end Instruction

/-! ### Instruction words -/

/-- An operation with an opcode is in the table. -/
lemma Instruction.mem_opcodes {opcode : Byte} {i : Instruction} (h : ofOpcode? opcode = some i) :
    (opcode.toNat, i) ∈ opcodes := by
  rw [ofOpcode?_eq_lookup] at h
  obtain ⟨before, after, hsplit, -⟩ := List.lookup_eq_some_iff.mp h
  simp [hsplit]

namespace InstructionWord

variable {δ : Type} [Device δ]

lemma execute_of_some {word : InstructionWord} {i : Instruction}
    (h : Instruction.ofOpcode? word.opcode = some i) :
    (word.execute : Transition (Machine δ) Unit) = i.execute word.field := by
  unfold execute
  rw [h]

lemma execute_of_none {word : InstructionWord} (h : Instruction.ofOpcode? word.opcode = none) :
    (word.execute : Transition (Machine δ) Unit) = fault (.illegalInstruction word.opcode) := by
  unfold execute
  rw [h]

end InstructionWord

end LectureMachine
