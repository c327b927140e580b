import LectureMachine.Device.Buffered
import LectureMachine.Proofs.Image.Binary
import LectureMachine.Proofs.Machine.Comparison
import LectureMachine.Proofs.Machine.Progress

/-!
# A program that prints

The first program that a lecture shows: it writes the bytes that lie behind it, up to the first zero
byte. Whatever these bytes are, it writes them and halts. The proof goes round the loop once for
every byte; the invariant is about the moment when the next byte is about to be fetched.
-/

namespace LectureMachine.Printer

open Machine

variable {δ : Type} [Device δ] {s padding : List Byte} {device : δ} {m : Machine δ}

/-! ### The program -/

/-- The program without the bytes that it prints. -/
def code : List InstructionWord :=
  [ 0x56002001, -- 32 to register 1
    0x1B000102, -- the byte at the address in register 1 to register 2
    0x31000200, -- register 2 compared with zero
    0x42000004, -- if it is zero, on to the last instruction
    0x61020000, -- register 2 written
    0x38010101, -- 1 added to register 1
    0x41FFFFFB, -- back to the second instruction
    0x09000000 ]

/-- What the words of the program stand for. -/
def operations : List Instruction :=
  [ .loadUnsigned, .fetch 1 false .displaced, .subtract .register, .jumpRelative .zero,
    .putc .register, .add .immediate, .jumpRelative .always, .halt .immediate ]

/-- The program with the bytes that it prints, a zero byte and whatever is needed to fill the last
word. -/
def program (s padding : List Byte) : List InstructionWord :=
  code ++ BinaryImage.words (s ++ 0 :: padding)

/-- A machine with this program that was just switched on. -/
def start (s padding : List Byte) (device : δ) : Machine δ :=
  (loadProgram (program s padding) (new device)).state

lemma ofOpcode?_code {i : Nat} {w : InstructionWord} {op : Instruction} (hw : code[i]? = some w)
    (hop : operations[i]? = some op) : Instruction.ofOpcode? w.opcode = some op := by
  have hall : code.map (fun w => Instruction.ofOpcode? w.opcode) = operations.map some := by
    simp only [Instruction.ofOpcode?_eq_lookup]
    decide
  have hi := congrArg (·[i]?) hall
  simp only [List.getElem?_map, hw, hop, Option.map_some] at hi
  exact Option.some.inj hi

lemma lt_of_code {i : Nat} {w : InstructionWord} (hw : code[i]? = some w) : i < 8 :=
  (List.getElem?_eq_some_iff.mp hw).1

lemma getElem?_program {i : Nat} {w : InstructionWord} (hw : code[i]? = some w) :
    (program s padding)[i]? = some w := by
  rw [program, List.getElem?_append_left (lt_of_code hw), hw]

/-- The bytes to print lie from address 32 on. -/
lemma byte_program (hwhole : 4 ∣ (s ++ 0 :: padding).length) {j : Nat} {b : Byte}
    (hj : (s ++ 0 :: padding)[j]? = some b) (hfit : 32 + j < 2 ^ 64) :
    (({} : Memory).storeProgram 0 (program s padding)).byte (BitVec.ofNat 64 (32 + j)) = b := by
  have hplace : 32 + j = 4 * code.length + j := rfl
  rw [hplace] at hfit ⊢
  exact BinaryImage.byte_storeProgram_words hwhole hj hfit {}

/-! ### One instruction -/

/-- The machine has come to word `i`. Register 1 has the address of byte `n` of the string, and `j`
bytes are printed. -/
structure At (s padding : List Byte) (device : δ) (i n j : Nat) (m : Machine δ) : Prop where
  atWord : AtWord (program s padding) i m
  address : m.core.alu.peek 1 = BitVec.ofNat 64 (32 + n)
  device : m.device = (s.take j).foldl (fun d b => Device.put b d) device

section Word

variable {i : Nat} {w : InstructionWord} {op : Instruction}
  (h : AtWord (program s padding) i m) (hw : code[i]? = some w) (hop : operations[i]? = some op)
  (hallowed : op.refusal? w.field m.core.alu = none) (hplain : (op.change w.field m).IsPlain)

include h hw hop hallowed hplain

lemma goesOn_to {k : Nat}
    (htarget : (op.target? w.field m.core).getD (m.core.ip + 4) = BitVec.ofNat 64 (4 * k)) :
    m.GoesOn 1 (m.wentOn w op) ∧ AtWord (program s padding) k (m.wentOn w op) := by
  have hi := lt_of_code hw
  exact h.goesOn (getElem?_program hw) (by omega) (ofOpcode?_code hw hop) hallowed hplain htarget

lemma goesOn_succ (htarget : op.target? w.field m.core = none) :
    m.GoesOn 1 (m.wentOn w op) ∧ AtWord (program s padding) (i + 1) (m.wentOn w op) := by
  have hi := lt_of_code hw
  exact h.goesOn_succ (getElem?_program hw) (by omega) (ofOpcode?_code hw hop) hallowed hplain
    htarget

end Word

lemma at_start (s padding : List Byte) (device : δ) :
    ∃ m, (start s padding device).GoesOn 1 m ∧ At s padding device 1 0 0 m := by
  have hstart : AtWord (program s padding) 0 (start s padding device) :=
    atWord_loadProgram _ device
  obtain ⟨hgoes, hnext⟩ := goesOn_succ hstart rfl rfl rfl ⟨rfl, rfl, rfl⟩ rfl
  refine ⟨_, hgoes, hnext, ?_, rfl⟩
  rw [peek_wentOn, Alu.Results.value_of_writes_eq rfl]
  rfl

variable {n j : Nat} {b : Byte}

/-- The byte that register 1 points to is fetched into register 2. -/
lemma At.fetch (h : At s padding device 1 n j m) (hwhole : 4 ∣ (s ++ 0 :: padding).length)
    (hb : (s ++ 0 :: padding)[n]? = some b) (hfit : 32 + n < 2 ^ 64) :
    ∃ m', m.GoesOn 1 m' ∧ At s padding device 2 n j m' ∧ m'.core.alu.peek 2 = b.setWidth 64 := by
  have hallowed : (Instruction.fetch 1 false .displaced).refusal? (InstructionWord.field 0x1B000102)
      m.core.alu = none := FlatMemory.misalignment?_one _
  have hsource : Addressing.displaced.source (InstructionWord.field 0x1B000102) m.core.alu
      = BitVec.ofNat 64 (32 + n) :=
    (BitVec.zero_add _).trans h.address
  obtain ⟨hgoes, hnext⟩ := goesOn_succ h.atWord rfl rfl hallowed ⟨rfl, rfl, rfl⟩ rfl
  refine ⟨_, hgoes, ⟨hnext, ?_, h.device⟩, ?_⟩
  · rw [peek_wentOn, Alu.Results.value_of_writes_eq rfl]
    exact h.address
  · rw [peek_wentOn, Alu.Results.value_of_writes_eq rfl, hsource, h.atWord.memory,
      FlatMemory.word_one, byte_program hwhole hb hfit]
    rfl

/-- Register 2 is compared with zero. -/
lemma At.test (h : At s padding device 2 n j m) (hb : m.core.alu.peek 2 = b.setWidth 64) :
    ∃ m', m.GoesOn 1 m' ∧ At s padding device 3 n j m' ∧ m'.core.alu.peek 2 = b.setWidth 64 ∧
      (m'.core.holds .zero = true ↔ b = 0) := by
  obtain ⟨hgoes, hnext⟩ := goesOn_succ h.atWord rfl rfl rfl ⟨rfl, rfl, rfl⟩ rfl
  refine ⟨_, hgoes, ⟨hnext, ?_, h.device⟩, ?_, ?_⟩
  · rw [peek_wentOn, Alu.Results.value_of_writes_eq rfl]
    exact h.address
  · rw [peek_wentOn, Alu.Results.value_of_writes_eq rfl]
    exact hb
  · have hzero : (m.wentOn 0x31000200 (.subtract .register)).core.holds .zero = true ↔
        m.core.alu.peek 2 = m.core.alu.peek 0 :=
      Alu.Results.zero_difference _ _ 0 m.core.alu.flags
    rw [hzero, hb, h.atWord.readsZero, Word.setWidth_eq_zero_iff]

/-- If it is zero, the program leaves the loop. -/
lemma At.leave (h : At s padding device 3 n j m) (hzero : m.core.holds .zero = true) :
    ∃ m', m.GoesOn 1 m' ∧ At s padding device 7 n j m' ∧
      m'.core.alu.peek 2 = m.core.alu.peek 2 := by
  have htarget : ((Instruction.jumpRelative .zero).target? (InstructionWord.field 0x42000004)
      m.core).getD (m.core.ip + 4) = BitVec.ofNat 64 (4 * 7) := by
    rw [Instruction.target?, hzero, h.atWord.ip]
    rfl
  obtain ⟨hgoes, hnext⟩ := goesOn_to h.atWord rfl rfl rfl ⟨rfl, rfl, rfl⟩ htarget
  exact ⟨_, hgoes, ⟨hnext, h.address, h.device⟩, rfl⟩

/-- If it is not, the program stays in the loop. -/
lemma At.stay (h : At s padding device 3 n j m) (hzero : m.core.holds .zero = false) :
    ∃ m', m.GoesOn 1 m' ∧ At s padding device 4 n j m' ∧
      m'.core.alu.peek 2 = m.core.alu.peek 2 := by
  have htarget : (Instruction.jumpRelative .zero).target? (InstructionWord.field 0x42000004) m.core
      = none := by
    rw [Instruction.target?, hzero]
    rfl
  obtain ⟨hgoes, hnext⟩ := goesOn_succ h.atWord rfl rfl rfl ⟨rfl, rfl, rfl⟩ htarget
  exact ⟨_, hgoes, ⟨hnext, h.address, h.device⟩, rfl⟩

/-- The byte is written. -/
lemma At.putc (h : At s padding device 4 n j m) (hb : m.core.alu.peek 2 = b.setWidth 64)
    (hs : s[j]? = some b) : ∃ m', m.GoesOn 1 m' ∧ At s padding device 5 n (j + 1) m' := by
  obtain ⟨hgoes, hnext⟩ := goesOn_succ h.atWord rfl rfl rfl ⟨rfl, rfl, rfl⟩ rfl
  refine ⟨_, hgoes, hnext, h.address, ?_⟩
  have hput : (m.wentOn 0x61020000 (.putc .register)).device =
      Device.put ((m.core.alu.peek 2).setWidth 8) m.device := rfl
  have hlow : (b.setWidth 64).setWidth 8 = b := by simp
  rw [hput, hb, hlow, h.device, List.take_add_one, hs, List.foldl_append]
  rfl

/-- Register 1 is advanced to the next byte. -/
lemma At.advance (h : At s padding device 5 n j m) :
    ∃ m', m.GoesOn 1 m' ∧ At s padding device 6 (n + 1) j m' := by
  obtain ⟨hgoes, hnext⟩ := goesOn_succ h.atWord rfl rfl rfl ⟨rfl, rfl, rfl⟩ rfl
  refine ⟨_, hgoes, hnext, ?_, h.device⟩
  have hsum : (m.wentOn 0x38010101 (.add .immediate)).core.alu.peek 1
      = 1 + m.core.alu.peek 1 := by
    rw [peek_wentOn, Alu.Results.value_of_writes_eq rfl]
    rfl
  rw [hsum, h.address, BitVec.add_comm, ← Nat.add_assoc, BitVec.ofNat_add _ 1]
  rfl

/-- The loop begins again. -/
lemma At.back (h : At s padding device 6 n j m) :
    ∃ m', m.GoesOn 1 m' ∧ At s padding device 1 n j m' := by
  have htarget : ((Instruction.jumpRelative .always).target? (InstructionWord.field 0x41FFFFFB)
      m.core).getD (m.core.ip + 4) = BitVec.ofNat 64 (4 * 1) := by
    rw [Instruction.target?, h.atWord.ip]
    rfl
  obtain ⟨hgoes, hnext⟩ := goesOn_to h.atWord rfl rfl rfl ⟨rfl, rfl, rfl⟩ htarget
  exact ⟨_, hgoes, hnext, h.address, h.device⟩

/-! ### The loop -/

/-- In one round of the loop a byte that is not zero is printed. -/
lemma At.round (h : At s padding device 1 n n m) (hwhole : 4 ∣ (s ++ 0 :: padding).length)
    (hs : s[n]? = some b) (hb : b ≠ 0) (hfit : 32 + n < 2 ^ 64) :
    ∃ m', m.GoesOn 6 m' ∧ At s padding device 1 (n + 1) (n + 1) m' := by
  have hbyte : (s ++ 0 :: padding)[n]? = some b := by
    rw [List.getElem?_append_left (List.getElem?_eq_some_iff.mp hs).1, hs]
  obtain ⟨m₁, hgoes₁, h₁, hb₁⟩ := h.fetch hwhole hbyte hfit
  obtain ⟨m₂, hgoes₂, h₂, hb₂, hzero⟩ := h₁.test hb₁
  obtain ⟨m₃, hgoes₃, h₃, hb₃⟩ := h₂.stay (Bool.eq_false_iff.mpr (mt hzero.mp hb))
  obtain ⟨m₄, hgoes₄, h₄⟩ := h₃.putc (hb₃.trans hb₂) hs
  obtain ⟨m₅, hgoes₅, h₅⟩ := h₄.advance
  obtain ⟨m₆, hgoes₆, h₆⟩ := h₅.back
  exact ⟨m₆, ((((hgoes₁.trans hgoes₂).trans hgoes₃).trans hgoes₄).trans hgoes₅).trans hgoes₆, h₆⟩

/-- After six instructions for each byte, the bytes up to the next one are printed. -/
lemma exists_printed (device : δ) (hwhole : 4 ∣ (s ++ 0 :: padding).length) (hzero : 0 ∉ s)
    (hfit : 32 + s.length < 2 ^ 64) (hn : n ≤ s.length) :
    ∃ m, (start s padding device).GoesOn (1 + 6 * n) m ∧ At s padding device 1 n n m := by
  induction n with
  | zero => exact at_start s padding device
  | succ n ih =>
    obtain ⟨m, hgoes, h⟩ := ih (by omega)
    obtain ⟨b, hs⟩ : ∃ b, s[n]? = some b := ⟨s[n], List.getElem?_eq_getElem hn⟩
    have hb : b ≠ 0 := by
      rintro rfl
      exact hzero (List.mem_of_getElem? hs)
    obtain ⟨m', hgoes', h'⟩ := h.round hwhole hs hb (by omega)
    have hcount : 1 + 6 * (n + 1) = 1 + 6 * n + 6 := by omega
    rw [hcount]
    exact ⟨m', hgoes.trans hgoes', h'⟩

/-- The zero byte leads out of the loop. -/
lemma At.finish (h : At s padding device 1 s.length s.length m)
    (hwhole : 4 ∣ (s ++ 0 :: padding).length) (hfit : 32 + s.length < 2 ^ 64) :
    ∃ m', m.GoesOn 3 m' ∧ At s padding device 7 s.length s.length m' ∧
      m'.core.alu.peek 2 = 0 := by
  have hbyte : (s ++ 0 :: padding)[s.length]? = some 0 := by simp
  obtain ⟨m₁, hgoes₁, h₁, hb₁⟩ := h.fetch hwhole hbyte hfit
  obtain ⟨m₂, hgoes₂, h₂, hb₂, hzero⟩ := h₁.test hb₁
  obtain ⟨m₃, hgoes₃, h₃, hb₃⟩ := h₂.leave (hzero.mpr rfl)
  exact ⟨m₃, (hgoes₁.trans hgoes₂).trans hgoes₃, h₃, hb₃.trans hb₂⟩

/-- After three more instructions the machine has come to the last one. -/
lemma exists_finished (device : δ) (hwhole : 4 ∣ (s ++ 0 :: padding).length) (hzero : 0 ∉ s)
    (hfit : 32 + s.length < 2 ^ 64) :
    ∃ m, (start s padding device).GoesOn (4 + 6 * s.length) m ∧
      At s padding device 7 s.length s.length m ∧ m.core.alu.peek 2 = 0 := by
  obtain ⟨m, hgoes, h⟩ := exists_printed device hwhole hzero hfit le_rfl
  obtain ⟨m', hgoes', h', hb⟩ := h.finish hwhole hfit
  have hcount : 4 + 6 * s.length = 1 + 6 * s.length + 3 := by omega
  rw [hcount]
  exact ⟨m', hgoes.trans hgoes', h', hb⟩

/-- The machine after the last instruction. -/
structure Finished (s : List Byte) (device : δ) (m : Machine δ) : Prop where
  halted : m.halted = true
  verdict : m.verdict = .ok 0
  errorMessage : m.errorMessage = none
  steps : m.steps = 4 + 6 * s.length
  address : m.core.alu.peek 1 = BitVec.ofNat 64 (32 + s.length)
  byte : m.core.alu.peek 2 = 0
  device : m.device = s.foldl (fun d b => Device.put b d) device

lemma At.halt (h : At s padding device 7 s.length s.length m) (hbyte : m.core.alu.peek 2 = 0)
    (hsteps : m.steps = 4 + 6 * s.length) :
    (step m).result = .ok .halted ∧ Finished s device (step m).state := by
  have hword := h.atWord.nextWord (getElem?_program (i := 7) rfl) (by decide)
  obtain ⟨hr, hstate⟩ := step_of_halt h.atWord.halted hword (ofOpcode?_code (i := 7) rfl rfl)
  have hdevice := h.device
  rw [List.take_length] at hdevice
  refine ⟨hr, ?_⟩
  rw [hstate]
  refine ⟨rfl, ?_, h.atWord.errorMessage, hsteps, h.address, hbyte, hdevice⟩
  rw [verdict, h.atWord.fault]
  rfl

/-- A buffered device keeps what is put into it. -/
lemma output_foldl_put (bytes : List Byte) (d : Buffered) :
    (bytes.foldl (fun d b => Device.put b d) d).output.toList = d.output.toList ++ bytes := by
  induction bytes generalizing d with
  | nil => simp
  | cons b bytes ih =>
    rw [List.foldl_cons, ih]
    simp [Device.put]

/-- The program prints every string without zero bytes, whatever fills the last word, and then the
machine halts with the exit code 0. It takes four instructions and six more for every byte, and
then the one that halts. -/
theorem prints (s padding : List Byte) (nonzero : 0 ∉ s) (short : s.length < 2 ^ 40)
    (whole : 4 ∣ (s ++ 0 :: padding).length) :
    let m : Machine Buffered := start s padding {}
    (∀ k ≤ 4 + 6 * s.length, (runFor k m).result = .ok .stepLimit) ∧
      ∃ m' : Machine Buffered,
        m'.device.output.toList = s ∧ m'.halted = true ∧ m'.errorMessage = none ∧
          m'.steps = 4 + 6 * s.length ∧
          m'.core.alu.peek 1 = BitVec.ofNat 64 (32 + s.length) ∧ m'.core.alu.peek 2 = 0 ∧
          ∀ k > 4 + 6 * s.length, ∃ activity,
            runFor k m = ⟨.ok (.halted 0), m', activity⟩ ∧
              runToHalt? k m = some ⟨.ok 0, m', activity⟩ := by
  intro m
  obtain ⟨last, hgoes, h, hbyte⟩ := exists_finished ({} : Buffered) whole nonzero (by omega)
  obtain ⟨hhalts, hfinished⟩ := h.halt hbyte (hgoes.steps.trans (Nat.zero_add _))
  have houtput : (step last).state.device.output.toList = s := by
    rw [hfinished.device, output_foldl_put]
    rfl
  refine ⟨fun k hk => hgoes.result_of_le hk, (step last).state, houtput, hfinished.halted,
    hfinished.errorMessage, hfinished.steps, hfinished.address, hfinished.byte, fun k hk => ?_⟩
  obtain ⟨activity, hrun⟩ := hgoes.runFor_of_lt hhalts hk
  rw [hfinished.verdict] at hrun
  have hresult : (runFor k m).result = (Except.ok 0).map .halted := by rw [hrun]
  have hend := runToHalt?_of_runFor hresult le_rfl
  rw [hrun] at hend
  exact ⟨activity, hrun, hend⟩

/-- The bytes of a greeting. -/
def hello : List Byte :=
  [0x68, 0x65, 0x6C, 0x6C, 0x6F, 0x2C, 0x20, 0x77, 0x6F, 0x72, 0x6C, 0x64, 0x21, 0x0A]

/-- The greeting is printed in 88 instructions, before the one that halts. -/
theorem prints_hello :
    0 ∉ hello ∧ hello.length < 2 ^ 40 ∧ 4 ∣ (hello ++ 0 :: [0]).length ∧
      program hello [0] = code ++ [0x68656C6C, 0x6F2C2077, 0x6F726C64, 0x210A0000] ∧
      (runFor 88 (start hello [0] ({} : Buffered))).result = .ok .stepLimit ∧
      (runFor 89 (start hello [0] ({} : Buffered))).result = .ok (.halted 0) ∧
      (runFor 89 (start hello [0] ({} : Buffered))).state.device.output.toList = hello := by
  have nonzero : 0 ∉ hello := by decide
  have short : hello.length < 2 ^ 40 := by decide
  have whole : 4 ∣ (hello ++ 0 :: [0]).length := by decide
  obtain ⟨hlimit, m, houtput, -, -, -, -, -, hends⟩ := prints hello [0] nonzero short whole
  obtain ⟨activity, hrun, -⟩ := hends 89 (by decide)
  refine ⟨nonzero, short, whole, by decide, hlimit 88 (by decide), ?_, ?_⟩
  · rw [hrun]
  · rw [hrun, houtput]

end LectureMachine.Printer
