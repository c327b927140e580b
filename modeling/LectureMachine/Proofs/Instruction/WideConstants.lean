import Mathlib.Data.Int.ModEq
import Mathlib.Data.Nat.Digits.Lemmas
import LectureMachine.Proofs.Instruction.Change
import LectureMachine.Device.Buffered

/-!
# Wide constants

An instruction has room for 16 bits of a constant. A wide constant is built from such chunks: the
first one is loaded, and every other one is added after the register was moved up to make room for
it. What the register has no room for is lost at the top.
-/

namespace LectureMachine

open Transition

variable {δ : Type}

/-! ### Instruction words -/

/-- The operand field with the bytes X and Y, joined, and the register that Z names. -/
def OperandField.ofChunk (c : BitVec 16) (r : Register) : OperandField :=
  ⟨c ++ BitVec.ofNat 8 r.val⟩

lemma OperandField.rz_ofChunk (c : BitVec 16) (r : Register) : (ofChunk c r).rz = r := by
  have hr := r.isLt
  apply Fin.ext
  simp only [rz, z, ofChunk, BitVec.extractLsb'_append_eq_right, BitVec.toNat_ofNat]
  omega

lemma OperandField.uxy_ofChunk (c : BitVec 16) (r : Register) :
    (ofChunk c r).uxy = c.setWidth 64 := by
  rw [uxy, ofChunk, BitVec.extractLsb'_append_eq_left]

lemma OperandField.sxy_ofChunk (c : BitVec 16) (r : Register) :
    (ofChunk c r).sxy = c.signExtend 64 := by
  rw [sxy, ofChunk, BitVec.extractLsb'_append_eq_left]

namespace InstructionWord

/-- The instruction word with an opcode, a chunk of a constant and a register. -/
def ofChunk (opcode : Byte) (c : BitVec 16) (r : Register) : InstructionWord :=
  opcode ++ (OperandField.ofChunk c r).raw

lemma opcode_ofChunk (opcode : Byte) (c : BitVec 16) (r : Register) :
    (ofChunk opcode c r).opcode = opcode :=
  BitVec.extractLsb'_append_eq_left

lemma field_ofChunk (opcode : Byte) (c : BitVec 16) (r : Register) :
    (ofChunk opcode c r).field = .ofChunk c r := by
  rw [field, ofChunk, BitVec.extractLsb'_append_eq_right]

end InstructionWord

/-! ### Numbers -/

/-- The number that chunks are the digits of, to the base 2 ^ 16, the highest one first. -/
def digitsValue (cs : List (BitVec 16)) : Nat :=
  Nat.ofDigits (2 ^ 16) (cs.map BitVec.toNat).reverse

/-- The number that a first chunk makes together with others, which are digits below it. The first
chunk may be read as a signed number. -/
def chunksValue (signed : Bool) (c : BitVec 16) (cs : List (BitVec 16)) : Int :=
  (if signed then c.toInt else c.toNat) * 2 ^ (16 * cs.length) + digitsValue cs

lemma digitsValue_cons (c : BitVec 16) (cs : List (BitVec 16)) :
    digitsValue (c :: cs) = c.toNat * 2 ^ (16 * cs.length) + digitsValue cs := by
  rw [digitsValue, List.map_cons, List.reverse_cons, Nat.ofDigits_append, Nat.ofDigits_singleton,
    List.length_reverse, List.length_map, ← pow_mul, Nat.mul_comm, Nat.add_comm, digitsValue]

/-- To move a number up and to add a chunk is to append a digit. -/
lemma Word.shift_add_chunk (n : Int) (c : BitVec 16) :
    BitVec.ofInt 64 n <<< 16 + c.setWidth 64 = BitVec.ofInt 64 (n * 2 ^ 16 + c.toNat) := by
  have hc := c.isLt
  apply BitVec.eq_of_toNat_eq
  rw [BitVec.toNat_add, BitVec.toNat_shiftLeft, BitVec.toNat_setWidth, BitVec.toNat_ofInt,
    BitVec.toNat_ofInt, Nat.shiftLeft_eq]
  omega

lemma Word.first_chunk (signed : Bool) (c : BitVec 16) :
    (if signed then c.signExtend 64 else c.setWidth 64)
      = BitVec.ofInt 64 (if signed then c.toInt else c.toNat) := by
  cases signed with
  | true => rfl
  | false =>
    apply BitVec.eq_of_toNat_eq
    have hc := c.isLt
    simp

/-- The sign of the first of four chunks is lost at the top. -/
lemma Word.ofInt_chunksValue (signed : Bool) (v : Word) :
    BitVec.ofInt 64 (chunksValue signed (v.extractLsb' 48 16)
      [v.extractLsb' 32 16, v.extractLsb' 16 16, v.extractLsb' 0 16]) = v := by
  have hv := v.isLt
  have hdigit : ∀ k, (v.extractLsb' k 16).toNat = v.toNat / 2 ^ k % 2 ^ 16 := fun k => by
    rw [BitVec.extractLsb'_toNat, Nat.shiftRight_eq_div_pow]
  have hfirst : ∃ k : Int, (if signed then (v.extractLsb' 48 16).toInt
      else (v.extractLsb' 48 16).toNat) = (v.extractLsb' 48 16).toNat + 2 ^ 16 * k := by
    cases signed with
    | false => exact ⟨0, by simp⟩
    | true =>
      rw [if_pos rfl, BitVec.toInt_eq_toNat_cond]
      split
      · exact ⟨0, by omega⟩
      · exact ⟨-1, by omega⟩
  obtain ⟨k, hk⟩ := hfirst
  have hnil : digitsValue [] = 0 := rfl
  apply BitVec.eq_of_toNat_eq
  rw [BitVec.toNat_ofInt, chunksValue, hk]
  simp only [digitsValue_cons, hnil, hdigit, List.length_cons, List.length_nil]
  omega

/-! ### Machines -/

/-- The machine with a value loaded into a register. -/
def Machine.loaded (m : Machine δ) (r : Register) (v : Word) : Machine δ :=
  { m with core.alu := (Alu.Results.loaded v r).carriedOut m.core.alu }

lemma Machine.peek_loaded {r : Register} (hr : r ≠ 0) (m : Machine δ) (v : Word) :
    (m.loaded r v).core.alu.peek r = v := by
  rw [loaded, Alu.Results.peek_carriedOut, Alu.Results.value_of_writes_eq rfl, if_pos rfl,
    if_neg hr]

/-- What is loaded last into a register stays. -/
lemma Machine.loaded_loaded (m : Machine δ) (r : Register) (v v' : Word) :
    (m.loaded r v).loaded r v' = m.loaded r v' := by
  simp [loaded, Alu.Results.loaded, Alu.Results.carriedOut]

namespace InstructionWord

variable [Device δ]

/-- Carries out instruction words, one after the other. -/
def executeAll : List InstructionWord → Transition (Machine δ) Unit
  | [] => pure ()
  | word :: words => do
    word.execute
    executeAll words

/-- The instructions that build a constant: the first chunk is loaded, as a signed number or not,
and every other chunk is loaded below what is there. -/
def building (signed : Bool) (c : BitVec 16) (cs : List (BitVec 16)) (r : Register) :
    List InstructionWord :=
  ofChunk (if signed then 0x57 else 0x56) c r :: cs.map (ofChunk 0x5D · r)

lemma executeAll_cons_of_ok {word : InstructionWord} {m m' : Machine δ}
    (h : (word.execute m).result = .ok () ∧ (word.execute m).state = m')
    (words : List InstructionWord) :
    (executeAll (word :: words) m).result = (executeAll words m').result ∧
      (executeAll (word :: words) m).state = (executeAll words m').state := by
  rcases hword : word.execute m with ⟨result, m'', done⟩
  rw [hword] at h
  obtain ⟨rfl, rfl⟩ := h
  rw [executeAll, bind_of_ok hword]
  exact ⟨rfl, rfl⟩

lemma execute_of_loads {word : InstructionWord} {i : Instruction} {m : Machine δ} {v : Word}
    {r : Register} (hi : Instruction.ofOpcode? word.opcode = some i)
    (hallowed : i.refusal? word.field m.core.alu = none)
    (htarget : i.target? word.field m.core = none)
    (hchange : i.change word.field m = { alu := .loaded v r }) :
    (word.execute m).result = .ok () ∧ (word.execute m).state = m.loaded r v := by
  obtain ⟨hok, hstate⟩ := Instruction.execute_of_allowed ⟨_, hi⟩ hallowed
  rw [execute_of_some hi]
  refine ⟨hok, ?_⟩
  rw [hstate, hchange, htarget]
  rfl

/-- The first instruction loads its chunk. -/
lemma execute_first (signed : Bool) (c : BitVec 16) (r : Register) (m : Machine δ) :
    ((ofChunk (if signed then 0x57 else 0x56) c r).execute m).result = .ok () ∧
      ((ofChunk (if signed then 0x57 else 0x56) c r).execute m).state
        = m.loaded r (BitVec.ofInt 64 (if signed then c.toInt else c.toNat)) := by
  rw [← Word.first_chunk]
  cases signed with
  | true =>
    have hi : Instruction.ofOpcode? (ofChunk 0x57 c r).opcode = some .loadSigned := by
      rw [opcode_ofChunk, Instruction.ofOpcode?_eq_lookup]
      decide
    refine execute_of_loads hi rfl rfl ?_
    rw [field_ofChunk, Instruction.change, OperandField.sxy_ofChunk, OperandField.rz_ofChunk]
    rfl
  | false =>
    have hi : Instruction.ofOpcode? (ofChunk 0x56 c r).opcode = some .loadUnsigned := by
      rw [opcode_ofChunk, Instruction.ofOpcode?_eq_lookup]
      decide
    refine execute_of_loads hi rfl rfl ?_
    rw [field_ofChunk, Instruction.change, OperandField.uxy_ofChunk, OperandField.rz_ofChunk]
    rfl

/-- Every other instruction appends a digit to what is in the register. -/
lemma execute_next {r : Register} (hr : r ≠ 0) (c : BitVec 16) (n : Int) (m : Machine δ) :
    ((ofChunk 0x5D c r).execute (m.loaded r (BitVec.ofInt 64 n))).result = .ok () ∧
      ((ofChunk 0x5D c r).execute (m.loaded r (BitVec.ofInt 64 n))).state
        = m.loaded r (BitVec.ofInt 64 (n * 2 ^ 16 + c.toNat)) := by
  have hi : Instruction.ofOpcode? (ofChunk 0x5D c r).opcode = some .loadShifted := by
    rw [opcode_ofChunk, Instruction.ofOpcode?_eq_lookup]
    decide
  have hloaded := m.loaded_loaded r (BitVec.ofInt 64 n)
    (BitVec.ofInt 64 n <<< 16 + c.setWidth 64)
  rw [← Word.shift_add_chunk, ← hloaded]
  refine execute_of_loads hi rfl rfl ?_
  rw [field_ofChunk, Instruction.change, OperandField.uxy_ofChunk, OperandField.rz_ofChunk,
    Machine.peek_loaded hr]

lemma executeAll_next {r : Register} (hr : r ≠ 0) (cs : List (BitVec 16)) (n : Int)
    (m : Machine δ) :
    (executeAll (cs.map (ofChunk 0x5D · r)) (m.loaded r (BitVec.ofInt 64 n))).result = .ok () ∧
      (executeAll (cs.map (ofChunk 0x5D · r)) (m.loaded r (BitVec.ofInt 64 n))).state
        = m.loaded r (BitVec.ofInt 64 (n * 2 ^ (16 * cs.length) + digitsValue cs)) := by
  induction cs generalizing n with
  | nil =>
    have hnil : n * 2 ^ (16 * 0) + (digitsValue [] : Nat) = n := by
      simp [digitsValue]
    rw [List.length_nil, hnil]
    exact ⟨rfl, rfl⟩
  | cons c cs ih =>
    have hnumber : n * 2 ^ (16 * (c :: cs).length) + (digitsValue (c :: cs) : Nat)
        = (n * 2 ^ 16 + c.toNat) * 2 ^ (16 * cs.length) + (digitsValue cs : Nat) := by
      rw [digitsValue_cons, List.length_cons]
      push_cast
      ring
    obtain ⟨hresult, hstate⟩ := executeAll_cons_of_ok (execute_next hr c n m)
      (cs.map (ofChunk 0x5D · r))
    rw [List.map_cons, hresult, hstate, hnumber]
    exact ih _

/-- The instructions leave a constant in a register and tell whether it is zero; they change nothing
else. -/
structure Builds (words : List InstructionWord) (r : Register) (v : Word) (m : Machine δ) :
    Prop where
  succeeds : (executeAll words m).result = .ok ()
  register : (executeAll words m).state.core.alu.peek r = v
  others : ∀ r' ≠ r, (executeAll words m).state.core.alu.peek r' = m.core.alu.peek r'
  flags : (executeAll words m).state.core.alu.flags
    = { m.core.alu.flags with zero := decide (v = 0) }
  rest : (executeAll words m).state
    = { m with core.alu := (executeAll words m).state.core.alu }

lemma builds_of_loaded {words : List InstructionWord} {r : Register} (hr : r ≠ 0) {v : Word}
    {m : Machine δ} (hok : (executeAll words m).result = .ok ())
    (hstate : (executeAll words m).state = m.loaded r v) : Builds words r v m := by
  refine ⟨hok, ?_, fun r' hr' => ?_, ?_, ?_⟩
  · rw [hstate, Machine.peek_loaded hr]
  · rw [hstate, Machine.loaded, Alu.Results.peek_carriedOut, Alu.Results.value_of_writes_eq rfl,
      if_neg hr']
  · rw [hstate]
    rfl
  · rw [hstate]
    rfl

/-- Of any chunks, the instructions build the number that they are the digits of, modulo 2 ^ 64. So
four of them are enough for every word. -/
theorem builds_constants {r : Register} (hr : r ≠ 0) (m : Machine δ) (signed : Bool) :
    (∀ c cs, ∃ v : Word, (v.toNat : Int) ≡ chunksValue signed c cs [ZMOD 2 ^ 64] ∧
        Builds (building signed c cs r) r v m) ∧
      ∀ v : Word, Builds (building signed (v.extractLsb' 48 16)
        [v.extractLsb' 32 16, v.extractLsb' 16 16, v.extractLsb' 0 16] r) r v m := by
  have hbuilds : ∀ c cs,
      Builds (building signed c cs r) r (BitVec.ofInt 64 (chunksValue signed c cs)) m := by
    intro c cs
    obtain ⟨hresult, hstate⟩ := executeAll_cons_of_ok (execute_first signed c r m)
      (cs.map (ofChunk 0x5D · r))
    obtain ⟨hok, hlast⟩ := executeAll_next hr cs (if signed then c.toInt else c.toNat) m
    exact builds_of_loaded hr (hresult.trans hok) (hstate.trans hlast)
  constructor
  · intro c cs
    refine ⟨_, ?_, hbuilds c cs⟩
    rw [BitVec.toNat_ofInt, Int.ModEq]
    omega
  · intro v
    have h := hbuilds (v.extractLsb' 48 16)
      [v.extractLsb' 32 16, v.extractLsb' 16 16, v.extractLsb' 0 16]
    rwa [Word.ofInt_chunksValue] at h

/-- Four instructions for a word of which the first chunk has its sign bit set. -/
theorem builds_constants_negative :
    building true 0xFEDC [0xBA98, 0x7654, 0x3210] 1
        = [0x57FEDC01, 0x5DBA9801, 0x5D765401, 0x5D321001] ∧
      (1 : Register) ≠ 0 ∧
      Builds (building true 0xFEDC [0xBA98, 0x7654, 0x3210] 1) 1 0xFEDCBA9876543210
        (Machine.new ({} : Buffered)) :=
  ⟨by decide, by decide,
    (builds_constants (by decide) (Machine.new ({} : Buffered)) true).2 0xFEDCBA9876543210⟩

end InstructionWord

end LectureMachine
