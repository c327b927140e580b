import LectureMachine.Proofs.Instruction.Operands
import LectureMachine.Proofs.Instruction.Shape
import LectureMachine.Proofs.Instruction.Text
import LectureMachine.Device.Buffered

/-!
# What assembly text tells

Different operations can have the same mnemonic, and numbers are written in different ways, but the
parts of a text are of different kinds in them. So the text of an instruction tells which operation
it is, but for the scale of an access, and it tells all the operand bytes that the operation uses.
-/

namespace LectureMachine

open Transition

/-! ### Operand bytes -/

namespace OperandField

variable {f g : OperandField}

/-- The operand bytes make up the field. -/
lemma eq_iff : f = g ↔ f.x = g.x ∧ f.y = g.y ∧ f.z = g.z := by
  constructor
  · rintro rfl
    exact ⟨rfl, rfl, rfl⟩
  · rcases f with ⟨a⟩
    rcases g with ⟨b⟩
    simp only [x, y, z, mk.injEq, ← BitVec.toNat_inj, BitVec.extractLsb'_toNat,
      Nat.shiftRight_eq_div_pow]
    have ha := a.isLt
    have hb := b.isLt
    omega

lemma raw_inj : f.raw = g.raw ↔ f.x = g.x ∧ f.y = g.y ∧ f.z = g.z := by
  rw [← eq_iff, OperandField.mk.injEq]

lemma xy_inj : f.raw.extractLsb' 8 16 = g.raw.extractLsb' 8 16 ↔ f.x = g.x ∧ f.y = g.y := by
  simp only [x, y, ← BitVec.toNat_inj, BitVec.extractLsb'_toNat, Nat.shiftRight_eq_div_pow]
  omega

lemma rx_inj : f.rx = g.rx ↔ f.x = g.x := by
  rw [rx, rx, Fin.mk.injEq, BitVec.toNat_inj]

lemma ry_inj : f.ry = g.ry ↔ f.y = g.y := by
  rw [ry, ry, Fin.mk.injEq, BitVec.toNat_inj]

lemma rz_inj : f.rz = g.rz ↔ f.z = g.z := by
  rw [rz, rz, Fin.mk.injEq, BitVec.toNat_inj]

/-- Bits that are joined to a number are found again in it, if it has no sign. -/
lemma toNat_setWidth_inj {n : Nat} (h : n ≤ 64) {a b : BitVec n} :
    (a.setWidth 64).toNat = (b.setWidth 64).toNat ↔ a = b := by
  rw [BitVec.toNat_setWidth_of_le h, BitVec.toNat_setWidth_of_le h, BitVec.toNat_inj]

/-- They are found again as well if it has one. -/
lemma toInt_signExtend_inj {n : Nat} (h : n ≤ 64) {a b : BitVec n} :
    (a.signExtend 64).toInt = (b.signExtend 64).toInt ↔ a = b := by
  rw [BitVec.toInt_signExtend_of_le h, BitVec.toInt_signExtend_of_le h, BitVec.toInt_inj]

lemma ux_inj : f.ux.toNat = g.ux.toNat ↔ f.x = g.x := toNat_setWidth_inj (by decide)

lemma sx_inj : f.sx.toInt = g.sx.toInt ↔ f.x = g.x := toInt_signExtend_inj (by decide)

lemma sy_inj : f.sy.toInt = g.sy.toInt ↔ f.y = g.y := toInt_signExtend_inj (by decide)

lemma uxy_inj : f.uxy.toNat = g.uxy.toNat ↔ f.x = g.x ∧ f.y = g.y :=
  (toNat_setWidth_inj (by decide)).trans xy_inj

lemma sxy_inj : f.sxy.toInt = g.sxy.toInt ↔ f.x = g.x ∧ f.y = g.y :=
  (toInt_signExtend_inj (by decide)).trans xy_inj

lemma sxyz_inj : f.sxyz.toInt = g.sxyz.toInt ↔ f.x = g.x ∧ f.y = g.y ∧ f.z = g.z :=
  (toInt_signExtend_inj (by decide)).trans raw_inj

end OperandField

namespace OperandFormat

variable {format : OperandFormat} {f g : OperandField}

/-- The operand bytes that are written in a format are the same in both fields. -/
def Agree (format : OperandFormat) (f g : OperandField) : Prop :=
  match format with
  | .none => True
  | .reg | .byte => f.x = g.x
  | .regReg => f.x = g.x ∧ f.y = g.y
  | _ => f = g

/-- The operand bytes can be told from the parts of the text. -/
lemma agree_of_parts_eq (h : format.parts f = format.parts g) : format.Agree f g := by
  cases format <;>
    simp only [parts, layout, List.map_cons, List.map_nil, List.cons.injEq, and_true, true_and,
      Part.register.injEq, Part.number.injEq, Nat.cast_inj, OperandField.rx_inj,
      OperandField.ry_inj, OperandField.rz_inj, OperandField.ux_inj, OperandField.sx_inj,
      OperandField.sy_inj, OperandField.uxy_inj, OperandField.sxy_inj,
      OperandField.sxyz_inj] at h <;>
    simp only [Agree, OperandField.eq_iff, h, and_self]

end OperandFormat

/-! ### Operations -/

lemma Operand.value_congr {f g : OperandField} (h : f.x = g.x) (x : Operand) :
    x.value (·.ux) f = x.value (·.ux) g := by
  have hux : f.ux = g.ux := congrArg (BitVec.setWidth 64) h
  cases x with
  | register => rw [value.eq_def, value.eq_def, OperandField.rx_inj.mpr h]
  | immediate => exact congrArg pure hux

namespace Instruction

variable {δ : Type} [Device δ] {f g : OperandField} {i : Instruction}

/-- An operation uses no operand bytes but those that are written. -/
lemma execute_congr (h : i.operandFormat.Agree f g) :
    (i.execute f : Transition (Machine δ) Unit) = i.execute g := by
  cases i with
  | halt code =>
    have hx : f.x = g.x := by cases code <;> exact h
    rw [execute, execute, code.value_congr hx]
  | putc byte =>
    have hx : f.x = g.x := by cases byte <;> exact h
    rw [execute, execute, byte.value_congr hx]
  | getc => rw [execute, execute, executeGetc, executeGetc, OperandField.rx_inj.mpr h]
  | jumpAbsolute =>
    rw [execute, execute, Core.jumpAbsolute, Core.jumpAbsolute, OperandField.rx_inj.mpr h.1,
      OperandField.ry_inj.mpr h.2]
  | bitNot =>
    rw [execute, execute, Alu.bitNot, Alu.bitNot, OperandField.rx_inj.mpr h.1,
      OperandField.ry_inj.mpr h.2]
  | nop => rfl
  | add x | subtract x | multiply x | divideUnsigned x | divideSigned x
  | shiftLeft x | shiftRight x | shiftRightSigned x =>
    cases x <;> obtain rfl : f = g := h <;> rfl
  | fetch width signed addressing => cases addressing <;> obtain rfl : f = g := h <;> rfl
  | store width addressing => cases addressing <;> obtain rfl : f = g := h <;> rfl
  | _ =>
    obtain rfl : f = g := h
    rfl

/-- The scales that a scaled access can have. -/
def scales : List Nat := [1, 2, 4, 8]

/-- The operation with another scale, if it is a scaled access, and else the operation itself. -/
def withScale (i : Instruction) (scale : Nat) : Instruction :=
  match i with
  | .fetch width signed (.scaled _) => .fetch width signed (.scaled scale)
  | .store width (.scaled _) => .store width (.scaled scale)
  | i => i

end Instruction

/-- The kinds of the parts that are written in a format. -/
def OperandFormat.kinds (format : OperandFormat) : List Part.Kind :=
  (format.parts ⟨0⟩).map Part.kind

lemma OperandFormat.map_kind_parts (format : OperandFormat) (field : OperandField) :
    (format.parts field).map Part.kind = format.kinds := by
  cases format <;> rfl

namespace Instruction

/-- In the table of the opcodes, operations with the same mnemonic and the same kinds of operands
differ in their scales at most. -/
lemma exists_withScale_of_mem_opcodes :
    ∀ x ∈ opcodes, ∀ y ∈ opcodes, x.2.operandFormat.kinds = y.2.operandFormat.kinds →
      x.2.mnemonic = y.2.mnemonic → ∃ scale ∈ scales, y.2 = x.2.withScale scale := by
  decide +kernel

lemma mnemonic_of_mem_opcodes :
    ∀ x ∈ opcodes, x.2.mnemonic.toList ≠ [] ∧
      x.2.mnemonic.toList.any isPunctuation = false := by
  decide +kernel

end Instruction

/-! ### Instruction words -/

namespace InstructionWord

variable {v w : InstructionWord} {i j : Instruction}

/-- The text of an instruction, split at its punctuation. -/
lemma pieces_disassemble (hi : Instruction.ofOpcode? v.opcode = some i) :
    Text.pieces isPunctuation v.disassemble.toList =
      i.mnemonic.toList :: (i.operandFormat.parts v.field).map (·.text.toList) := by
  obtain ⟨hne, hplain⟩ := Instruction.mnemonic_of_mem_opcodes _ (Instruction.mem_opcodes hi)
  rw [disassemble_of_some hi, OperandFormat.pieces_line hne]
  exact fun c hc => Bool.eq_false_iff.mpr (List.any_eq_false.mp hplain c hc)

/-- The mnemonic and the operands can be told from the text. -/
lemma mnemonic_eq_and_parts_eq (hi : Instruction.ofOpcode? v.opcode = some i)
    (hj : Instruction.ofOpcode? w.opcode = some j) (h : v.disassemble = w.disassemble) :
    i.mnemonic = j.mnemonic ∧
      i.operandFormat.parts v.field = j.operandFormat.parts w.field := by
  have hpieces := pieces_disassemble hi
  rw [h, pieces_disassemble hj] at hpieces
  obtain ⟨hmnemonic, hparts⟩ := List.cons.inj hpieces
  have hinjective : Function.Injective fun part : Part => part.text.toList :=
    fun a b htext => Part.text_injective (String.toList_injective htext)
  exact ⟨(String.toList_injective hmnemonic).symm,
    (List.map_injective_iff.mpr hinjective hparts).symm⟩

/-- The text of an instruction tells which one it is, and what it does. Two instructions with the
same text are the same operation but for the scale of an access, and if they have the same opcode as
well then they do the same to every machine, whatever the operand bytes are that are not written. No
instruction has the text of a word that is none. -/
theorem disassemble_determines (hi : Instruction.ofOpcode? v.opcode = some i)
    (hj : Instruction.ofOpcode? w.opcode = some j) :
    v.disassemble ≠ "illegal instruction" ∧
      (v.disassemble = w.disassemble →
        (∃ scale ∈ Instruction.scales, j = i.withScale scale) ∧
          (v.opcode = w.opcode →
            ∀ {δ : Type} [Device δ] (m : Machine δ), v.execute m = w.execute m)) := by
  refine ⟨disassemble_ne hi (by decide) (by decide), fun h => ?_⟩
  obtain ⟨hmnemonic, hparts⟩ := mnemonic_eq_and_parts_eq hi hj h
  refine ⟨?_, fun hopcode δ _ m => ?_⟩
  · have hkinds : i.operandFormat.kinds = j.operandFormat.kinds := by
      rw [← i.operandFormat.map_kind_parts v.field, hparts, OperandFormat.map_kind_parts]
    exact Instruction.exists_withScale_of_mem_opcodes _ (Instruction.mem_opcodes hi) _
      (Instruction.mem_opcodes hj) hkinds hmnemonic
  · rw [hopcode, hj] at hi
    obtain rfl := Option.some.inj hi
    rw [execute_of_some (hopcode ▸ hj), execute_of_some hj,
      Instruction.execute_congr (OperandFormat.agree_of_parts_eq hparts)]

/-- Two jumps that differ in the byte Z do the same, and two fetches with the same text differ in
their scale. -/
theorem disassemble_determines_jump_fetch :
    disassemble 0x40010200 = disassemble 0x400102FF ∧
      (∀ m : Machine Buffered, execute 0x40010200 m = execute 0x400102FF m) ∧
      disassemble 0x13010203 = disassemble 0x83010203 ∧
      ∃ scale ∈ Instruction.scales,
        Instruction.fetch 1 false (.scaled 2) =
          (Instruction.fetch 1 false (.scaled 1)).withScale scale := by
  have hjump (w : InstructionWord) (hw : w.opcode = 0x40) :
      Instruction.ofOpcode? w.opcode = some .jumpAbsolute := by
    rw [hw, Instruction.ofOpcode?_eq_lookup]
    decide
  have hone : Instruction.ofOpcode? (opcode 0x13010203) = some (.fetch 1 false (.scaled 1)) := by
    rw [Instruction.ofOpcode?_eq_lookup]
    decide
  have htwo : Instruction.ofOpcode? (opcode 0x83010203) = some (.fetch 1 false (.scaled 2)) := by
    rw [Instruction.ofOpcode?_eq_lookup]
    decide
  have hjumps : disassemble 0x40010200 = disassemble 0x400102FF := by
    rw [disassemble_of_some (hjump _ rfl), disassemble_of_some (hjump _ rfl)]
    rfl
  have hfetches : disassemble 0x13010203 = disassemble 0x83010203 := by
    rw [disassemble_of_some hone, disassemble_of_some htwo]
    rfl
  obtain ⟨-, hsame⟩ := disassemble_determines (hjump 0x40010200 rfl) (hjump 0x400102FF rfl)
  obtain ⟨-, hscaled⟩ := disassemble_determines hone htwo
  exact ⟨hjumps, (hsame hjumps).2 rfl, hfetches, (hscaled hfetches).1⟩

end InstructionWord

end LectureMachine
