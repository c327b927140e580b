import Mathlib.Data.Int.ModEq
import LectureMachine.OperandField

/-!
# Decoding

An instruction word and a value that comes over the bus are patterns of bytes, and some of the
bytes are read as a signed number. The number is always the one in two's complement: there is but
one between the bounds that agrees with the bytes, and the bytes above have no say in it. It can
also be found by shifts, which move the bytes to the top of a word and, with the sign that they
have there, down again; how far is different for every part of an instruction word.
-/

namespace LectureMachine

/-! ### Shifts -/

/-- A pattern is moved up, which drops what is above, and then down as a signed number, which drops
what is below. -/
def upAndDown {n : Nat} (up down : Nat) (v : BitVec n) : BitVec n :=
  (v <<< up).sshiftRight down

/-- The bits in the middle are left, with the sign of the topmost of them. -/
lemma upAndDown_eq_signExtend {n up start len : Nat} (h : up + start + len = n) (hpos : 0 < len)
    (v : BitVec n) : upAndDown up (up + start) v = (v.extractLsb' start len).signExtend n := by
  have hsign : (v <<< up).msb = (v.extractLsb' start len).msb := by
    have hplace : n - (start + len) = up := by omega
    have hfits : start + len ≤ n := by omega
    simp [BitVec.msb_shiftLeft, BitVec.msb_extractLsb', hplace, hfits, hpos]
  apply BitVec.eq_of_getElem_eq
  intro i hi
  rw [upAndDown, BitVec.getElem_sshiftRight, BitVec.getElem_signExtend]
  by_cases hlow : i < len
  · have hinside : up + start + i < n := by omega
    have hmoved : ¬ up + start + i < up := by omega
    have hback : up + start + i - up = start + i := by omega
    rw [dif_pos hinside, dif_pos hlow, ← BitVec.getLsbD_eq_getElem, BitVec.getLsbD_shiftLeft]
    simp [hinside, hmoved, hback]
  · -- Above the bits in the middle there is nothing but their sign.
    have houtside : ¬ up + start + i < n := by omega
    rw [dif_neg houtside, dif_neg hlow, hsign]

/-! ### Two's complement -/

namespace Word

/-- The number that the low `width` bytes of a pattern are in two's complement. -/
def IsTwosComplement (p : Word) (width : Nat) (n : Int) : Prop :=
  -2 ^ (8 * width - 1) ≤ n ∧ n ≤ 2 ^ (8 * width - 1) - 1 ∧ n ≡ p.toNat [ZMOD 2 ^ (8 * width)]

section Width

variable {width : Nat} (hpos : 1 ≤ width) (hle : width ≤ 8) (p : Word)

include hle in
lemma toInt_extendSign :
    (p.extendSign width).toInt = (p.toNat : Int).bmod (2 ^ (8 * width)) := by
  rw [extendSign, BitVec.toInt_signExtend_of_le (by omega), BitVec.toInt_setWidth]

include hpos hle in
/-- The sign is continued to the number in two's complement, and that is the only one. -/
lemma isTwosComplement_iff (n : Int) :
    p.IsTwosComplement width n ↔ n = (p.extendSign width).toInt := by
  have hhalf : 2 ^ (8 * width) = 2 * 2 ^ (8 * width - 1) := by
    rw [← Nat.pow_succ']
    congr 1
    omega
  have hdvd : n ≡ p.toNat [ZMOD 2 ^ (8 * width)] ↔
      ((2 ^ (8 * width) : Nat) : Int) ∣ n - p.toNat := by
    rw [Int.modEq_comm, Int.modEq_iff_dvd]
    norm_cast
  rw [toInt_extendSign hle, eq_comm, Int.bmod_eq_iff (Nat.two_pow_pos _), IsTwosComplement, hdvd,
    hhalf]
  push_cast
  omega

include hle in
/-- The sign is continued alike just if the low bytes are the same. -/
lemma extendSign_eq_iff (q : Word) :
    p.extendSign width = q.extendSign width ↔ p.toNat ≡ q.toNat [MOD 2 ^ (8 * width)] := by
  rw [extendSign, extendSign, ← BitVec.toInt_inj, BitVec.toInt_signExtend_of_le (by omega),
    BitVec.toInt_signExtend_of_le (by omega), BitVec.toInt_inj, ← BitVec.toNat_inj,
    BitVec.toNat_setWidth, BitVec.toNat_setWidth]
  rfl

include hpos hle in
lemma extendSign_eq_upAndDown :
    p.extendSign width = upAndDown (64 - 8 * width) (64 - 8 * width) p := by
  rw [extendSign, BitVec.setWidth_eq_extractLsb' (by omega)]
  exact (upAndDown_eq_signExtend (by omega) (by omega) p).symm

end Width

/-- Bytes that were put into a word have the sign that they had. -/
lemma extendSign_setWidth (width : Nat) (hle : width ≤ 8) (b : BitVec (8 * width)) :
    extendSign width (b.setWidth 64) = b.signExtend 64 := by
  rw [extendSign, BitVec.setWidth_setWidth_of_le b (by omega), BitVec.setWidth_eq]

end Word

/-! ### Operand fields -/

namespace OperandField

section Readings

variable (field : OperandField)

/-- The readings of a field belong together: the numbers are those of the bytes, and the signed ones
continue the sign of the bytes that they are made of. -/
structure Agrees : Prop where
  raw : field.raw.toNat = field.rx.val * 65536 + field.ry.val * 256 + field.rz.val
  ux : field.ux.toNat = field.rx.val
  uxy : field.uxy.toNat = field.rx.val * 256 + field.ry.val
  sx : field.sx = Word.extendSign 1 (BitVec.ofNat 64 field.rx.val)
  sy : field.sy = Word.extendSign 1 (BitVec.ofNat 64 field.ry.val)
  sxy : field.sxy = Word.extendSign 2 field.uxy
  sxyz : field.sxyz = Word.extendSign 3 (field.raw.setWidth 64)

lemma agrees : field.Agrees where
  raw := by
    have hraw := field.raw.isLt
    simp only [rx, ry, rz, x, y, z, BitVec.extractLsb'_toNat, Nat.shiftRight_eq_div_pow]
    omega
  ux := BitVec.toNat_setWidth_of_le (by decide)
  uxy := by
    have hraw := field.raw.isLt
    rw [uxy, BitVec.toNat_setWidth_of_le (by decide)]
    simp only [rx, ry, x, y, BitVec.extractLsb'_toNat, Nat.shiftRight_eq_div_pow]
    omega
  sx := by
    rw [rx, BitVec.ofNat_toNat]
    exact (Word.extendSign_setWidth 1 (by decide) field.x).symm
  sy := by
    rw [ry, BitVec.ofNat_toNat]
    exact (Word.extendSign_setWidth 1 (by decide) field.y).symm
  sxy := (Word.extendSign_setWidth 2 (by decide) (field.raw.extractLsb' 8 16)).symm
  sxyz := (Word.extendSign_setWidth 3 (by decide) field.raw).symm

/-- The field is moved up and down in 32 bits, and what comes of it becomes a word. -/
def shifted (up down : Nat) : Word :=
  (upAndDown up down (field.raw.setWidth 32)).signExtend 64

lemma shifted_eq_signExtend (up start len : Nat) (h : up + start + len = 32) (hpos : 0 < len) :
    field.shifted up (up + start) = (field.raw.extractLsb' start len).signExtend 64 := by
  rw [shifted, upAndDown_eq_signExtend h hpos, BitVec.extractLsb'_setWidth_of_le (by omega)]
  apply BitVec.eq_of_toInt_eq
  rw [BitVec.toInt_signExtend_of_le (by decide), BitVec.toInt_signExtend_of_le (by omega),
    BitVec.toInt_signExtend_of_le (by omega)]

/-- The signed readings of a field are found by shifts, each by those that suit its bytes. -/
structure IsShifted : Prop where
  sx : field.sx = field.shifted 8 24
  sy : field.sy = field.shifted 16 24
  sxy : field.sxy = field.shifted 8 16
  sxyz : field.sxyz = field.shifted 8 8

lemma isShifted : field.IsShifted where
  sx := (field.shifted_eq_signExtend 8 16 8 rfl (by decide)).symm
  sy := (field.shifted_eq_signExtend 16 8 8 rfl (by decide)).symm
  sxy := (field.shifted_eq_signExtend 8 8 16 rfl (by decide)).symm
  sxyz := by
    have hall := field.shifted_eq_signExtend 8 0 24 rfl (by decide)
    rw [BitVec.extractLsb'_eq_self] at hall
    exact hall.symm

end Readings

/-! ### Numbers of fields -/

variable {n : BitVec 32}

lemma ofNumber?_of_lt (h : n.toNat < 2 ^ 24) : ofNumber? n = .ok ⟨n.setWidth 24⟩ :=
  if_pos h

lemma ofNumber?_of_le (h : 2 ^ 24 ≤ n.toNat) : ofNumber? n = .error (.invalidField n) :=
  if_neg (Nat.not_lt.mpr h)

/-- A number is accepted for the field that has it. -/
lemma ofNumber?_eq_ok_iff {field : OperandField} :
    ofNumber? n = .ok field ↔ field.raw.toNat = n.toNat := by
  rcases Nat.lt_or_ge n.toNat (2 ^ 24) with hlt | hle
  · have hkept : (n.setWidth 24).toNat = n.toNat := by
      rw [BitVec.toNat_setWidth, Nat.mod_eq_of_lt hlt]
    rw [ofNumber?_of_lt hlt, Except.ok.injEq, ← hkept, BitVec.toNat_inj]
    constructor
    · rintro rfl
      rfl
    · intro hraw
      rw [← hraw]
  · have hraw := field.raw.isLt
    rw [ofNumber?_of_le hle]
    constructor
    · nofun
    · omega

lemma exists_ofNumber?_eq_ok_iff : (∃ field, ofNumber? n = .ok field) ↔ n.toNat < 2 ^ 24 := by
  constructor
  · rintro ⟨field, h⟩
    exact ofNumber?_eq_ok_iff.mp h ▸ field.raw.isLt
  · exact fun h => ⟨_, ofNumber?_of_lt h⟩

lemma ofNumber?_eq_error_iff : ofNumber? n = .error (.invalidField n) ↔ 2 ^ 24 ≤ n.toNat := by
  refine ⟨fun h => Nat.le_of_not_lt fun hlt => ?_, ofNumber?_of_le⟩
  rw [ofNumber?_of_lt hlt] at h
  cases h

end OperandField

/-! ### Instruction words -/

namespace InstructionWord

variable (word : InstructionWord)

lemma opcode_add_field : word.opcode.toNat * 2 ^ 24 + word.field.raw.toNat = word.toNat := by
  have hword := word.isLt
  simp only [opcode, field, BitVec.extractLsb'_toNat, Nat.shiftRight_eq_div_pow]
  omega

/-- Without the opcode, an instruction word is the number of a field. -/
lemma ofNumber?_and : OperandField.ofNumber? (word &&& 0x00FFFFFF) = .ok word.field := by
  have hmask : (word &&& 0x00FFFFFF).toNat = word.toNat % 2 ^ 24 := by
    rw [BitVec.toNat_and]
    exact Nat.and_two_pow_sub_one_eq_mod word.toNat 24
  rw [OperandField.ofNumber?_eq_ok_iff, hmask, field, BitVec.extractLsb'_toNat, Nat.shiftRight_zero]

end InstructionWord

/-- Signed numbers are read in two's complement. The low bytes of a pattern, one to eight of them,
are read as the only number between the bounds that agrees with them, whatever is above. An
instruction word is an opcode and a field. The numbers in a field are made of its bytes, and the
signed ones are read like the low bytes of a pattern; here and there, shifts give the same number. A
number is that of a field just if it has no more than 24 bits. -/
theorem signed_readings_exact :
    (∀ (p : Word) (width : Nat), 1 ≤ width → width ≤ 8 →
        (∀ n, p.IsTwosComplement width n ↔ n = (p.extendSign width).toInt) ∧
          (∀ q : Word, p.extendSign width = q.extendSign width ↔
            p.toNat ≡ q.toNat [MOD 2 ^ (8 * width)]) ∧
          p.extendSign width = upAndDown (64 - 8 * width) (64 - 8 * width) p) ∧
      (∀ word : InstructionWord,
        word.opcode.toNat * 2 ^ 24 + word.field.raw.toNat = word.toNat ∧
          OperandField.ofNumber? (word &&& 0x00FFFFFF) = .ok word.field) ∧
      (∀ field : OperandField, field.Agrees ∧ field.IsShifted) ∧
      ∀ n : BitVec 32,
        (∀ field, OperandField.ofNumber? n = .ok field ↔ field.raw.toNat = n.toNat) ∧
          ((∃ field, OperandField.ofNumber? n = .ok field) ↔ n.toNat < 2 ^ 24) ∧
          (OperandField.ofNumber? n = .error (.invalidField n) ↔ 2 ^ 24 ≤ n.toNat) := by
  refine ⟨fun p width hpos hle => ?_, fun word => ?_, fun field => ?_, fun n => ?_⟩
  · exact ⟨p.isTwosComplement_iff hpos hle, p.extendSign_eq_iff hle,
      p.extendSign_eq_upAndDown hpos hle⟩
  · exact ⟨word.opcode_add_field, word.ofNumber?_and⟩
  · exact ⟨field.agrees, field.isShifted⟩
  · exact ⟨fun field => OperandField.ofNumber?_eq_ok_iff, OperandField.exists_ofNumber?_eq_ok_iff,
      OperandField.ofNumber?_eq_error_iff⟩

/-- Two bytes that are negative, below other bytes in a word and as X and Y in an instruction. -/
theorem signed_readings_exact_negative :
    (1 ≤ 2 ∧ 2 ≤ 8) ∧ (Word.extendSign 2 0xAB8001).toInt = -0x7FFF ∧
      (InstructionWord.field 0x57800101).sxy = Word.extendSign 2 0xAB8001 := by
  obtain ⟨hbytes, -, hfields, -⟩ := signed_readings_exact
  obtain ⟨hnumber, hlow, -⟩ := hbytes 0xAB8001 2 (by decide) (by decide)
  refine ⟨by decide, ((hnumber _).mp ⟨by decide, by decide, by decide⟩).symm, ?_⟩
  rw [(hfields _).1.sxy]
  exact ((hlow _).mpr (by decide)).symm

end LectureMachine
