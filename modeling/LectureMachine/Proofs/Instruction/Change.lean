import LectureMachine.Proofs.Alu.Results
import LectureMachine.Proofs.Instruction.Jump
import LectureMachine.Proofs.Memory.Flat

/-!
# What an instruction changes

Every operation is given a change: the registers, the flags, the bytes and so on that are new after
it, as a function of the machine before it. An operation that is allowed carries out its change,
with one exception that is the matter of another module; an operation that is refused ends in a
fault.
-/

namespace LectureMachine

open Transition

variable {δ : Type}

/-! ### Addresses -/

namespace Addressing

/-- The address that a value is fetched from. -/
def source (a : Addressing) (field : OperandField) (alu : Alu) : Word :=
  match a with
  | displaced => field.sx + alu.peek field.ry
  | scaled scale => alu.peek field.rx + alu.peek field.ry <<< (8 * scale % 64)

/-- The address that a value is stored at. -/
def destination (a : Addressing) (field : OperandField) (alu : Alu) : Word :=
  match a with
  | displaced => field.sy + alu.peek field.rz
  | scaled scale => alu.peek field.ry + alu.peek field.rz <<< (8 * scale % 64)

end Addressing

namespace FlatMemory

/-- The value at an address as a word, with its sign or without. -/
def word (f : FlatMemory) (address : Word) (width : Nat) (signed : Bool) : Word :=
  if signed then BitVec.ofInt 64 ((f.value address width : Int).bmod (2 ^ (8 * width)))
  else BitVec.ofNat 64 (f.value address width)

/-- A byte as a word. -/
lemma word_one (f : FlatMemory) (address : Word) :
    f.word address 1 false = (f address).setWidth 64 := by
  apply BitVec.eq_of_toNat_eq
  simp [word, value]

/-- Why an access is refused if its width is one that the bus has. -/
def misalignment? (address : Word) (width : Nat) : Option Fault :=
  if width ∣ address.toNat then none else some (.misaligned address width)

/-- A byte is never refused. -/
lemma misalignment?_one (address : Word) : misalignment? address 1 = none :=
  if_pos (Nat.one_dvd _)

/-- An aligned access of such a width never crosses the edge of a page. -/
lemma refusal?_eq_misalignment? {width : Nat} (h : width ∈ [1, 2, 4, 8]) (address : Word) :
    refusal? address width = misalignment? address width := by
  have hall : ∀ width ∈ [1, 2, 4, 8], width ∣ 1024 ∧ 1 ≤ width ∧ width ≤ 8 := by decide
  obtain ⟨hpage, hwidth⟩ := hall width h
  have haligned : width ∣ address.toNat % 1024 ↔ width ∣ address.toNat := Nat.dvd_mod_iff hpage
  rw [refusal?, misalignment?, if_neg (not_not.mpr hwidth)]
  by_cases hdvd : width ∣ address.toNat
  · have hoffset := haligned.mpr hdvd
    have hlt : 0 < 1024 - address.toNat % 1024 := by omega
    have hroom : width ≤ 1024 - address.toNat % 1024 :=
      Nat.le_of_dvd hlt (Nat.dvd_sub hpage hoffset)
    rw [if_neg (not_not.mpr hoffset), if_neg (by omega), if_pos hdvd]
  · rw [if_pos (mt haligned.mp hdvd), if_neg hdvd]

end FlatMemory

/-! ### Refusals -/

namespace Instruction

/-- The operation has an opcode. -/
def Legal (i : Instruction) : Prop := ∃ opcode, ofOpcode? opcode = some i

/-- The width of a fetch or a store. -/
def width? : Instruction → Option Nat
  | .fetch width _ _ | .store width _ => some width
  | _ => none

lemma Legal.width_mem {i : Instruction} (h : i.Legal) {width : Nat} (hw : i.width? = some width) :
    width ∈ [1, 2, 4, 8] := by
  obtain ⟨opcode, h⟩ := h
  have hall : ∀ entry ∈ opcodes, ∀ width ∈ entry.2.width?, width ∈ [1, 2, 4, 8] := by decide
  exact hall _ (mem_opcodes h) width hw

/-- Why an operation cannot be carried out, if it cannot. -/
def refusal? (i : Instruction) (field : OperandField) (alu : Alu) : Option Fault :=
  match i with
  | .fetch width _ addressing => FlatMemory.misalignment? (addressing.source field alu) width
  | .store width addressing => FlatMemory.misalignment? (addressing.destination field alu) width
  | .divideUnsigned x =>
    if field.ry.val = 255 ∨ 254 ≤ field.rz.val then some (.registerOutOfRange 256)
    else if x.eval (·.ux) field alu = 0 then some .divisionByZero
    else none
  | .divideSigned x =>
    if field.rz.val = 255 then some (.registerOutOfRange 256)
    else if x.eval (·.sx) field alu = 0 then some .divisionByZero
    else none
  | _ => none

end Instruction

/-! ### Changes -/

/-- All that is new after an instruction. -/
structure Change (δ : Type) where
  alu : Alu.Results := {}
  /-- The address, the width and the value of what is stored. -/
  stored : Option (Word × Nat × Word) := none
  /-- Where a jump goes. -/
  target : Option Word := none
  /-- The exit code of a machine that halts. -/
  exitCode : Option Byte := none
  device : Option δ := none
  /-- Whether the machine waits, if it has asked for input. -/
  blocked : Option Bool := none

namespace Change

/-- The machine with all that is new. -/
def carriedOut (c : Change δ) (m : Machine δ) : Machine δ where
  core :=
    { alu := c.alu.carriedOut m.core.alu
      memory :=
        match c.stored with
        | some (address, width, v) =>
          m.core.memory.store (address.toNat / Page.size) (address.toNat % Page.size)
            (BigEndian.bytes v.toNat width)
        | none => m.core.memory
      ir := m.core.ir
      ip := (m.core.placeAfter c.target).1
      jumped := (m.core.placeAfter c.target).2 }
  device := c.device.getD m.device
  halted := c.exitCode.isSome || m.halted
  blocked := c.blocked.getD m.blocked
  exitCode := c.exitCode.getD m.exitCode
  errorMessage := m.errorMessage
  fault := m.fault
  steps := m.steps

/-- A change leads from one machine to another: what it names is new, and all else is as it was.
The memory counts for its bytes, not for its pages. -/
structure Leads (c : Change δ) (before after : Machine δ) : Prop where
  register : ∀ r, after.core.alu.peek r = c.alu.value before.core.alu r
  flags : after.core.alu.flags = c.alu.flags before.core.alu.flags
  byte : after.core.memory.byte =
    match c.stored with
    | some (address, width, v) => FlatMemory.put before.core.memory.byte address width v
    | none => before.core.memory.byte
  ir : after.core.ir = before.core.ir
  place : after.core.place = before.core.placeAfter c.target
  device : after.device = c.device.getD before.device
  halted : after.halted = (c.exitCode.isSome || before.halted)
  blocked : after.blocked = c.blocked.getD before.blocked
  exitCode : after.exitCode = c.exitCode.getD before.exitCode
  errorMessage : after.errorMessage = before.errorMessage
  fault : after.fault = before.fault
  steps : after.steps = before.steps

lemma leads_carriedOut {c : Change δ}
    (h : ∀ stored ∈ c.stored, FlatMemory.refusal? stored.1 stored.2.1 = none) (m : Machine δ) :
    c.Leads m (c.carriedOut m) where
  register := Alu.Results.peek_carriedOut c.alu m.core.alu
  flags := rfl
  byte := by
    cases hs : c.stored with
    | none => simp only [carriedOut, hs]
    | some stored =>
      have hallowed := h stored hs
      simp only [carriedOut, hs, Memory.byte_store_write _ _ _ _ hallowed]
  ir := rfl
  place := rfl
  device := rfl
  halted := rfl
  blocked := rfl
  exitCode := rfl
  errorMessage := rfl
  fault := rfl
  steps := rfl

end Change

namespace Instruction

/-- What an operation is to change, given the machine before it. -/
def change [Device δ] (i : Instruction) (field : OperandField) (m : Machine δ) : Change δ :=
  let alu := m.core.alu
  let x := alu.peek field.rx
  let y := alu.peek field.ry
  match i with
  | .halt code => { exitCode := some ((code.eval (·.ux) field alu).setWidth 8) }
  | .add x => { alu := .sum (x.eval (·.ux) field alu) y field.rz }
  | .subtract x => { alu := .difference (x.eval (·.ux) field alu) y field.rz }
  | .multiply x => { alu := .product (x.eval (·.sx) field alu) y field.rz }
  | .divideUnsigned x =>
    { alu := .wideQuotient (x.eval (·.ux) field alu) (alu.peek (field.ry + 1)) y field.rz }
  | .divideSigned x => { alu := .signedQuotient (x.eval (·.sx) field alu) y field.rz }
  | .jumpAbsolute => { alu := .single (m.core.ip + 4) field.ry, target := some x }
  | .jumpRelative c =>
    { target := if m.core.holds c then some (m.core.ip + 4 * field.sxyz) else none }
  | .bitOr => { alu := .loaded (x ||| y) field.rz }
  | .bitAnd => { alu := .loaded (x &&& y) field.rz }
  | .bitNot => { alu := .loaded (~~~x) field.ry }
  | .shiftLeft amount => { alu := .shiftedLeft (amount.eval (·.ux) field alu) y field.rz }
  | .shiftRight amount =>
    { alu := .single (y >>> ((amount.eval (·.ux) field alu).toNat % 64)) field.rz }
  | .shiftRightSigned amount =>
    { alu := .single (y.sshiftRight ((amount.eval (·.ux) field alu).toNat % 64)) field.rz }
  | .loadUnsigned => { alu := .loaded field.uxy field.rz }
  | .loadSigned => { alu := .loaded field.sxy field.rz }
  | .loadShifted => { alu := .loaded (alu.peek field.rz <<< 16 + field.uxy) field.rz }
  | .getc =>
    let poll := Device.poll m.device
    { alu := if poll.1 then .single ((Device.get poll.2).1.setWidth 64) field.rx else {}
      device := some (if poll.1 then (Device.get poll.2).2 else poll.2)
      blocked := some (!poll.1) }
  | .putc byte =>
    { device := some (Device.put ((byte.eval (·.ux) field alu).setWidth 8) m.device) }
  | .nop => {}
  | .fetch width signed addressing =>
    let v := FlatMemory.word m.core.memory.byte (addressing.source field alu) width signed
    { alu := .single v field.rz }
  | .store width addressing => { stored := some (addressing.destination field alu, width, x) }

end Instruction

/-! ### Fetching and storing -/

namespace Core

variable {address : Word} {width : Nat} (core : Core)

lemma fetch_of_refused {f : Fault} (h : FlatMemory.refusal? address width = some f) (signed : Bool)
    (r : Register) : (fetch address width signed r core).result = .error f := by
  simp [fetch, bind_apply, Memory.read_apply, Memory.peek_eq, h]

lemma fetch_of_allowed (h : FlatMemory.refusal? address width = none) (signed : Bool)
    (r : Register) :
    (fetch address width signed r core).result = .ok () ∧
      (fetch address width signed r core).state =
        { core with
          alu := (Alu.Results.single (FlatMemory.word core.memory.byte address width signed)
            r).carriedOut core.alu } := by
  have hlt := FlatMemory.value_lt core.memory.byte address
    (FlatMemory.le_eight_of_refusal?_eq_none h)
  rw [FlatMemory.word, ← Word.extendSign_ofNat width _ hlt]
  constructor
  · simp [fetch, bind_apply, Memory.read_apply, Memory.peek_eq, h]
  · simp only [fetch, bind_apply, onMemory_apply, Memory.read_apply, Memory.peek_eq, h]
    rfl

lemma write_of_refused {f : Fault} (h : FlatMemory.refusal? address width = some f) (v : Word) :
    (onMemory (Memory.write address width v) core).result = .error f := by
  simp [Memory.write_apply, Memory.locate_eq, h]

lemma write_of_allowed (h : FlatMemory.refusal? address width = none) (v : Word) :
    (onMemory (Memory.write address width v) core).result = .ok () ∧
      (onMemory (Memory.write address width v) core).state =
        { core with
          memory := core.memory.store (address.toNat / Page.size) (address.toNat % Page.size)
            (BigEndian.bytes v.toNat width) } := by
  simp [Memory.write_apply, Memory.locate_eq, h]

end Core

/-! ### Carrying out an operation -/

namespace Instruction

variable [Device δ] {i : Instruction} {field : OperandField} {m : Machine δ}

lemma binary_apply (x : Operand) (immediate : OperandField → Word)
    (operation : Word → Word → Register → Transition Alu Unit) (field : OperandField) (alu : Alu) :
    binary x immediate operation field alu =
      (operation (x.eval immediate field alu) (alu.peek field.ry) field.rz alu).after
        (x.reads field alu ++ [.register (.read field.ry (alu.peek field.ry))]) := by
  simp [binary, bind_apply]

omit [Device δ] in
/-- An operation of the arithmetic unit that runs to its end, with the results that it leaves. -/
lemma onAlu_binary {operation : Word → Word → Register → Transition Alu Unit}
    {results : Word → Word → Register → Alu.Results}
    (hruns : ∀ x y r, Runs Activity.IsAccess (operation x y r))
    (hstate : ∀ x y r alu, (operation x y r alu).state = (results x y r).carriedOut alu)
    (x : Operand) (immediate : OperandField → Word) (field : OperandField) (m : Machine δ) :
    (Machine.onAlu (binary x immediate operation field) m).result = .ok () ∧
      (Machine.onAlu (binary x immediate operation field) m).state =
        Change.carriedOut
          { alu := results (x.eval immediate field m.core.alu) (m.core.alu.peek field.ry) field.rz }
          m := by
  obtain ⟨⟨⟩, hok⟩ := (hruns (x.eval immediate field m.core.alu) (m.core.alu.peek field.ry)
    field.rz).succeeds m.core.alu
  rw [Machine.onAlu_apply, binary_apply, Outcome.result_after, Outcome.state_after, hstate]
  exact ⟨hok, rfl⟩

/-- A refused operation faults. -/
lemma execute_of_refused (hi : i.Legal) {f : Fault}
    (h : i.refusal? field m.core.alu = some f) : (i.execute field m).result = .error f := by
  cases i with
  | fetch width signed addressing =>
    rw [refusal?, ← FlatMemory.refusal?_eq_misalignment? (hi.width_mem rfl)] at h
    cases addressing with
    | displaced => exact Core.fetch_of_refused m.core h signed field.rz
    | scaled scale => exact Core.fetch_of_refused m.core h signed field.rz
  | store width addressing =>
    rw [refusal?, ← FlatMemory.refusal?_eq_misalignment? (hi.width_mem rfl)] at h
    cases addressing with
    | displaced => exact Core.write_of_refused m.core h _
    | scaled scale => exact Core.write_of_refused m.core h _
  | divideUnsigned x =>
    simp only [execute, Machine.onAlu_apply, bind_apply, Operand.value_apply, Outcome.result_after]
    rw [refusal?] at h
    split_ifs at h with hrange hzero
    · obtain rfl := Option.some.inj h
      exact Alu.divideUnsigned_of_out_of_range hrange _ _
    · obtain rfl := Option.some.inj h
      rw [hzero]
      exact Alu.divideUnsigned_of_zero hrange _
  | divideSigned x =>
    simp only [execute, Machine.onAlu_apply, binary_apply, Outcome.result_after]
    rw [refusal?] at h
    split_ifs at h with hrange hzero
    · obtain rfl := Option.some.inj h
      exact Alu.divideSigned_of_out_of_range hrange _ _ _
    · obtain rfl := Option.some.inj h
      rw [hzero]
      exact Alu.divideSigned_of_zero hrange _ _
  | _ => cases h

/-- An operation that is not refused carries out its change, but for the target of its jump. -/
lemma execute_of_allowed (hi : i.Legal) (h : i.refusal? field m.core.alu = none) :
    (i.execute field m).result = .ok () ∧
      (i.execute field m).state =
        Change.carriedOut { i.change field m with target := i.target? field m.core } m := by
  cases i with
  | fetch width signed addressing =>
    rw [refusal?, ← FlatMemory.refusal?_eq_misalignment? (hi.width_mem rfl)] at h
    cases addressing with
    | displaced =>
      obtain ⟨hok, hstate⟩ := Core.fetch_of_allowed m.core h signed field.rz
      exact ⟨hok, congrArg (fun core => { m with core }) hstate⟩
    | scaled scale =>
      obtain ⟨hok, hstate⟩ := Core.fetch_of_allowed m.core h signed field.rz
      exact ⟨hok, congrArg (fun core => { m with core }) hstate⟩
  | store width addressing =>
    rw [refusal?, ← FlatMemory.refusal?_eq_misalignment? (hi.width_mem rfl)] at h
    cases addressing with
    | displaced =>
      obtain ⟨hok, hstate⟩ := Core.write_of_allowed m.core h (m.core.alu.peek field.rx)
      exact ⟨hok, congrArg (fun core => { m with core }) hstate⟩
    | scaled scale =>
      obtain ⟨hok, hstate⟩ := Core.write_of_allowed m.core h (m.core.alu.peek field.rx)
      exact ⟨hok, congrArg (fun core => { m with core }) hstate⟩
  | divideUnsigned x =>
    rw [refusal?] at h
    split_ifs at h with hrange hzero
    obtain ⟨hok, hstate⟩ := Alu.divideUnsigned_of_ne_zero hrange hzero m.core.alu
    simp only [execute, Machine.onAlu_apply, bind_apply, Operand.value_apply, Outcome.result_after,
      Outcome.state_after, hstate]
    exact ⟨hok, rfl⟩
  | divideSigned x =>
    rw [refusal?] at h
    split_ifs at h with hrange hzero
    obtain ⟨hok, hstate⟩ := Alu.divideSigned_of_ne_zero hrange hzero (m.core.alu.peek field.ry)
      m.core.alu
    simp only [execute, Machine.onAlu_apply, binary_apply, Outcome.result_after,
      Outcome.state_after, hstate]
    exact ⟨hok, rfl⟩
  | add x => exact onAlu_binary Alu.runs_add Alu.state_add x _ field m
  | subtract x => exact onAlu_binary Alu.runs_subtract Alu.state_subtract x _ field m
  | multiply x => exact onAlu_binary Alu.runs_multiply Alu.state_multiply x _ field m
  | shiftLeft amount => exact onAlu_binary Alu.runs_shiftLeft Alu.state_shiftLeft amount _ field m
  | shiftRight amount =>
    exact onAlu_binary Alu.runs_shiftRight Alu.state_shiftRight amount _ field m
  | shiftRightSigned amount =>
    exact onAlu_binary Alu.runs_shiftRightSigned Alu.state_shiftRightSigned amount _ field m
  | jumpRelative c =>
    rw [target?]
    by_cases hc : m.core.holds c = true
    · simp only [execute, Machine.onCore_apply, Core.jumpIf, bind_apply, get_apply, hc, if_true]
      exact ⟨rfl, rfl⟩
    · simp only [execute, Machine.onCore_apply, Core.jumpIf, bind_apply, get_apply, hc]
      exact ⟨rfl, rfl⟩
  | halt code =>
    rw [execute_halt_apply]
    exact ⟨rfl, rfl⟩
  | putc byte =>
    rw [execute_putc_apply]
    exact ⟨rfl, rfl⟩
  | getc =>
    cases hready : (Device.poll m.device).1 with
    | false =>
      rw [execute_getc_of_not_ready hready]
      simp only [change, hready]
      exact ⟨trivial, rfl⟩
    | true =>
      rw [execute_getc_of_ready hready]
      simp only [change, hready]
      exact ⟨trivial, rfl⟩
  | _ => exact ⟨rfl, rfl⟩

lemma refusal?_eq_none (hi : i.Legal) (h : (i.execute field m).result = .ok ()) :
    i.refusal? field m.core.alu = none := by
  cases hrefusal : i.refusal? field m.core.alu with
  | none => rfl
  | some f =>
    rw [execute_of_refused hi hrefusal] at h
    cases h

/-- What is stored has a place. -/
lemma refusal?_of_mem_stored (hi : i.Legal) (h : i.refusal? field m.core.alu = none) :
    ∀ stored ∈ (i.change field m).stored, FlatMemory.refusal? stored.1 stored.2.1 = none := by
  intro stored hs
  cases i with
  | store width addressing =>
    obtain rfl := Option.some.inj hs
    rw [FlatMemory.refusal?_eq_misalignment? (hi.width_mem rfl)]
    exact h
  | _ => cases hs

/-- An operation that ends without a fault leads to where its change leads, if the change has the
target that is found. -/
lemma leads_execute (hi : i.Legal) (h : (i.execute field m).result = .ok ()) :
    Change.Leads { i.change field m with target := i.target? field m.core } m
      (i.execute field m).state := by
  have hallowed := refusal?_eq_none hi h
  rw [(execute_of_allowed hi hallowed).2]
  apply Change.leads_carriedOut
  exact refusal?_of_mem_stored hi hallowed

end Instruction

end LectureMachine
