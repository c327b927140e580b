import Mathlib.Data.Int.ModEq
import LectureMachine.Device.Buffered
import LectureMachine.Proofs.Machine.Flaw

/-!
# Storing and fetching

What has been stored is found again by every fetch from the same address, whichever way of
addressing leads there; what has not been overwritten is found as before. Both are facts about flat
memory, and a machine that has carried out a store has a flat memory with the value put into it.
-/

namespace LectureMachine

/-! ### Values of some bytes -/

namespace Word

/-- The low bytes of `v` are extended to the word `w`: with a sign to the number between the bounds
that agrees with them, without one to the number that they are. -/
def Extends (w : Word) (signed : Bool) (width : Nat) (v : Word) : Prop :=
  if signed then
    -2 ^ (8 * width - 1) ≤ w.toInt ∧ w.toInt < 2 ^ (8 * width - 1) ∧
      w.toInt ≡ v.toNat [ZMOD 2 ^ (8 * width)]
  else w.toNat = v.toNat % 2 ^ (8 * width)

/-- There is but one such word. -/
lemma Extends.unique {signed : Bool} {width : Nat} (hwidth : 0 < width) {v w w' : Word}
    (h : w.Extends signed width v) (h' : w'.Extends signed width v) : w = w' := by
  cases signed with
  | false => exact BitVec.eq_of_toNat_eq (h.trans h'.symm)
  | true =>
    obtain ⟨hlow, hhigh, hmod⟩ := h
    obtain ⟨hlow', hhigh', hmod'⟩ := h'
    have hpow : (2 : Int) ^ (8 * width) = 2 * 2 ^ (8 * width - 1) := by
      rw [← Int.pow_succ']
      congr 1
      omega
    have hdvd : 2 ^ (8 * width) ∣ w.toInt - w'.toInt :=
      Int.ModEq.dvd (hmod'.trans hmod.symm)
    have hzero : w.toInt - w'.toInt = 0 := by
      refine Int.eq_zero_of_abs_lt_dvd hdvd ?_
      rw [abs_lt]
      omega
    exact BitVec.eq_of_toInt_eq (by omega)

end Word

namespace FlatMemory

/-- Two stretches of memory have no byte in common. -/
def Apart (address : Word) (width : Nat) (address' : Word) (width' : Nat) : Prop :=
  ∀ i < width, ∀ j < width', address + BitVec.ofNat 64 i ≠ address' + BitVec.ofNat 64 j

variable (f : FlatMemory) {address : Word} {width : Nat}

/-- An access that is allowed does not go beyond the last address. -/
lemma toNat_add_of_refusal?_eq_none (h : refusal? address width = none) {i : Nat} (hi : i < width) :
    (address + BitVec.ofNat 64 i).toNat = address.toNat + i := by
  have hpage := le_of_refusal?_eq_none h
  have := address.isLt
  simp only [Page.size] at hpage
  rw [BitVec.toNat_add, BitVec.toNat_ofNat]
  omega

/-- The value that has been put at an address is there. -/
lemma value_put (h : refusal? address width = none) (v : Word) :
    (f.put address width v).value address width = v.toNat % 256 ^ width := by
  have hbytes : (List.range width).map
        (fun i => f.put address width v (address + BitVec.ofNat 64 i))
      = BigEndian.bytes v.toNat width := by
    refine List.ext_getElem? fun i => ?_
    by_cases hi : i < width
    · have hplace : address.toNat + width - 1 - (address.toNat + i) = width - 1 - i := by omega
      rw [List.getElem?_map, List.getElem?_range hi, Option.map_some, put,
        toNat_add_of_refusal?_eq_none h hi, if_pos (by omega), hplace,
        BigEndian.getElem?_bytes _ hi]
    · rw [List.getElem?_eq_none (by simp; omega), List.getElem?_eq_none (by simp; omega)]
  rw [value, ← BigEndian.value_map_range, hbytes, BigEndian.value_bytes]

/-- A byte is left alone unless it is one of those that are put. -/
lemma put_of_apart {v x : Word} (h : ∀ i < width, address + BitVec.ofNat 64 i ≠ x) :
    f.put address width v x = f x := by
  rw [put, if_neg]
  rintro ⟨hlow, hhigh⟩
  apply h (x.toNat - address.toNat) (by omega)
  have := x.isLt
  apply BitVec.eq_of_toNat_eq
  rw [BitVec.toNat_add, BitVec.toNat_ofNat]
  omega

/-- A value in other bytes is there as before. -/
lemma value_put_of_apart {address' : Word} {width' : Nat} (h : Apart address width address' width')
    (v : Word) : (f.put address width v).value address' width' = f.value address' width' := by
  refine Finset.sum_congr rfl fun j hj => ?_
  rw [put_of_apart f fun i hi => h i hi j (Finset.mem_range.mp hj)]

/-- Fetched as a word, with a sign or without, the value is made of the low bytes that were put. -/
lemma extends_word_put (hwidth : width ∈ [1, 2, 4, 8]) (h : refusal? address width = none)
    (v : Word) (signed : Bool) :
    ((f.put address width v).word address width signed).Extends signed width v := by
  have hall : ∀ width ∈ [1, 2, 4, 8],
      256 ^ width = 2 ^ (8 * width) ∧ 2 ^ (8 * width) = 2 * 2 ^ (8 * width - 1) ∧
        2 ^ (8 * width - 1) ≤ 2 ^ 63 := by
    decide
  obtain ⟨hpow, hhalf, hfits⟩ := hall width hwidth
  have hpos : 0 < 2 ^ (8 * width) := Nat.two_pow_pos _
  have hlt : v.toNat % 2 ^ (8 * width) < 2 ^ (8 * width) := Nat.mod_lt _ hpos
  rw [word, value_put f h, hpow]
  cases signed with
  | false =>
    rw [if_neg Bool.false_ne_true, Word.Extends, if_neg Bool.false_ne_true, BitVec.toNat_ofNat]
    exact Nat.mod_eq_of_lt (by omega)
  | true =>
    have hlow := Int.le_bmod (x := ↑(v.toNat % 2 ^ (8 * width))) hpos
    have hhigh := Int.bmod_lt (x := ↑(v.toNat % 2 ^ (8 * width))) hpos
    have hmod := Int.bmod_emod (x := ↑(v.toNat % 2 ^ (8 * width))) (m := 2 ^ (8 * width))
    have hcast : ((2 ^ (8 * width - 1) : Nat) : Int) = 2 ^ (8 * width - 1) := by push_cast; rfl
    push_cast at hmod
    rw [Int.emod_emod] at hmod
    rw [if_pos rfl, Word.Extends, if_pos rfl,
      BitVec.toInt_ofInt_eq_self (by decide) (by omega) (by omega)]
    exact ⟨by omega, by omega, hmod⟩

/-- Fetched as a word, a value in other bytes is there as before. -/
lemma word_put_of_apart {address' : Word} {width' : Nat} (h : Apart address width address' width')
    (v : Word) (signed : Bool) :
    (f.put address width v).word address' width' signed = f.word address' width' signed := by
  rw [word, value_put_of_apart f h, word]

end FlatMemory

/-! ### Stores and fetches -/

/-- The registers decide on the address. -/
lemma Addressing.source_congr (a : Addressing) (field : OperandField) {alu alu' : Alu}
    (h : ∀ r, alu.peek r = alu'.peek r) : a.source field alu = a.source field alu' := by
  cases a with
  | displaced => rw [source, source, h]
  | scaled scale => rw [source, source, h, h]

/-- A value has been stored, and the registers are as they were. -/
structure Core.Stored (address : Word) (width : Nat) (v : Word) (before after : Core) : Prop where
  allowed : FlatMemory.refusal? address width = none
  register : ∀ r, after.alu.peek r = before.alu.peek r
  byte : after.memory.byte = FlatMemory.put before.memory.byte address width v

namespace Instruction

variable {δ : Type} [Device δ] {width : Nat} {signed : Bool} {a : Addressing}
  {field : OperandField} {m : Machine δ}

/-- A store does not fault just if its address is aligned. -/
lemma result_execute_store (legal : (store width a).Legal) :
    ((store width a).execute field m).result = .ok () ↔
      width ∣ (a.destination field m.core.alu).toNat := by
  constructor
  · intro hok
    have hallowed := refusal?_eq_none legal hok
    by_contra haligned
    rw [refusal?, FlatMemory.misalignment?, if_neg haligned] at hallowed
    cases hallowed
  · intro haligned
    exact (execute_of_allowed legal (if_pos haligned)).1

/-- A store that does not fault puts the value of its register at its address. -/
lemma stored_execute (legal : (store width a).Legal)
    (h : ((store width a).execute field m).result = .ok ()) :
    Core.Stored (a.destination field m.core.alu) width (m.core.alu.peek field.rx) m.core
      ((store width a).execute field m).state.core where
  allowed := refusal?_of_mem_stored legal (refusal?_eq_none legal h) _ rfl
  register := (leads_execute legal h).register
  byte := (leads_execute legal h).byte

/-- A fetch faults just if the address is not aligned. -/
lemma result_execute_fetch (legal : (fetch width signed a).Legal) :
    ((fetch width signed a).execute field m).result =
      match FlatMemory.misalignment? (a.source field m.core.alu) width with
      | some f => .error f
      | none => .ok () := by
  cases h : FlatMemory.misalignment? (a.source field m.core.alu) width with
  | some f => exact execute_of_refused legal h
  | none => exact (execute_of_allowed legal h).1

/-- A fetch that does not fault brings a word to its register, unless that is register 0. -/
lemma peek_execute_fetch (legal : (fetch width signed a).Legal)
    (h : ((fetch width signed a).execute field m).result = .ok ()) (r : Register) :
    ((fetch width signed a).execute field m).state.core.alu.peek r =
      if r = field.rz then
        (if r = 0 then 0
        else FlatMemory.word m.core.memory.byte (a.source field m.core.alu) width signed)
      else m.core.alu.peek r := by
  rw [(leads_execute legal h).register]
  exact Alu.Results.value_of_writes_eq rfl m.core.alu r

/-- All that a fetch depends on are the registers and the bytes that it brings. -/
lemma execute_fetch_congr (legal : (fetch width signed a).Legal) (field : OperandField)
    (m m' : Machine δ) (hregister : ∀ r, m'.core.alu.peek r = m.core.alu.peek r)
    (hword : FlatMemory.word m'.core.memory.byte (a.source field m.core.alu) width signed
      = FlatMemory.word m.core.memory.byte (a.source field m.core.alu) width signed) :
    ((fetch width signed a).execute field m').result
        = ((fetch width signed a).execute field m).result ∧
      ∀ r, ((fetch width signed a).execute field m').state.core.alu.peek r
        = ((fetch width signed a).execute field m).state.core.alu.peek r := by
  have hsource := a.source_congr field hregister
  have hresult : ((fetch width signed a).execute field m').result
      = ((fetch width signed a).execute field m).result := by
    rw [result_execute_fetch legal, result_execute_fetch legal, hsource]
  refine ⟨hresult, fun r => ?_⟩
  cases h : ((fetch width signed a).execute field m).result with
  | error f =>
    rw [execute_precise _ _ h, execute_precise _ _ (hresult.trans h)]
    exact hregister r
  | ok _ =>
    rw [peek_execute_fetch legal h, peek_execute_fetch legal (hresult.trans h), hsource, hword,
      hregister]

end Instruction

namespace Machine

variable {δ : Type} [Device δ]

/-- What was stored at an address, between one machine and another, is found there. -/
structure Finds (address : Word) (width : Nat) (v : Word) (before after : Machine δ) : Prop where
  register : ∀ r, after.core.alu.peek r = before.core.alu.peek r
  /-- A fetch of as many bytes from the same address brings what was stored. -/
  same : ∀ {fetch : InstructionWord} {signed : Bool} {a : Addressing},
    Instruction.ofOpcode? fetch.opcode = some (.fetch width signed a) →
    a.source fetch.field after.core.alu = address → fetch.field.rz ≠ 0 →
    (fetch.execute after).result = .ok () ∧
      ∀ w : Word, (fetch.execute after).state.core.alu.peek fetch.field.rz = w ↔
        w.Extends signed width v
  /-- A fetch from other bytes does what it would have done before. -/
  apart : ∀ {fetch : InstructionWord} {width' : Nat} {signed : Bool} {a : Addressing},
    Instruction.ofOpcode? fetch.opcode = some (.fetch width' signed a) →
    FlatMemory.Apart address width (a.source fetch.field before.core.alu) width' →
    (fetch.execute after).result = (fetch.execute before).result ∧
      ∀ r, (fetch.execute after).state.core.alu.peek r
        = (fetch.execute before).state.core.alu.peek r
  /-- A fetch that comes next is what the next step does. -/
  next : ∀ {fetch : InstructionWord} {width' : Nat} {signed : Bool} {a : Addressing},
    Instruction.ofOpcode? fetch.opcode = some (.fetch width' signed a) →
    after.halted = false → after.nextWord = some fetch →
    ((step after).state.halted = false ↔ (fetch.execute after).result = .ok ()) ∧
      ∀ r, (step after).state.core.alu.peek r = (fetch.execute after).state.core.alu.peek r

section Step

variable {m : Machine δ} {word : InstructionWord} {width : Nat} {a : Addressing}
  (running : m.halted = false) (hnext : m.nextWord = some word)

include running hnext

/-- A step carries out the fetch that comes next. -/
lemma step_fetch {signed : Bool}
    (hi : Instruction.ofOpcode? word.opcode = some (.fetch width signed a)) :
    ((step m).state.halted = false ↔ (word.execute m).result = .ok ()) ∧
      ∀ r, (step m).state.core.alu.peek r = (word.execute m).state.core.alu.peek r := by
  obtain ⟨v, he⟩ := executeCurrent_of_nextWord hnext
  rw [InstructionWord.execute_of_some hi] at he
  have hgoes : (executeCurrent m).result = .ok () → (executeCurrent m).state.halted = false := by
    rw [he]
    intro hok
    exact (Instruction.leads_execute ⟨_, hi⟩ hok).halted.trans running
  -- The step puts the word into the instruction register first; a fetch does not look there.
  obtain ⟨hresult, hregister⟩ := Instruction.execute_fetch_congr ⟨_, hi⟩ word.field m
    { m with core.ir := word } (fun _ => rfl) rfl
  obtain ⟨ip, jumped, hcore⟩ := core_step running
  rw [halted_step_eq_false_iff running, Completes, and_iff_left_of_imp hgoes, hcore, he,
    InstructionWord.execute_of_some hi]
  exact ⟨by rw [Outcome.result_after, hresult], hregister⟩

/-- A step carries out the store that comes next. -/
lemma stored_step (hi : Instruction.ofOpcode? word.opcode = some (.store width a))
    (h : (step m).state.halted = false) :
    Core.Stored (a.destination word.field m.core.alu) width (m.core.alu.peek word.field.rx) m.core
      (step m).state.core := by
  obtain ⟨v, he⟩ := executeCurrent_of_nextWord hnext
  rw [InstructionWord.execute_of_some hi] at he
  obtain ⟨hok, -⟩ := (halted_step_eq_false_iff running).mp h
  obtain ⟨ip, jumped, hcore⟩ := core_step running
  rw [he] at hok hcore
  have hstored := Instruction.stored_execute (m := { m with core.ir := word }) ⟨_, hi⟩ hok
  rw [hcore]
  exact ⟨hstored.allowed, hstored.register, hstored.byte⟩

end Step

/-- Whoever has stored a value finds it. -/
lemma finds_of_stored {before after : Machine δ} {address v : Word} {width : Nat}
    (hwidth : width ∈ [1, 2, 4, 8]) (h : Core.Stored address width v before.core after.core) :
    Finds address width v before after where
  register := h.register
  same := by
    rintro fetch signed a hi rfl hrz
    have hpos : ∀ width ∈ [1, 2, 4, 8], 0 < width := by decide
    have hallowed := h.allowed
    rw [FlatMemory.refusal?_eq_misalignment? hwidth] at hallowed
    have hok : (fetch.execute after).result = .ok () := by
      rw [InstructionWord.execute_of_some hi, Instruction.result_execute_fetch ⟨_, hi⟩, hallowed]
    refine ⟨hok, fun w => ?_⟩
    have hextends := FlatMemory.extends_word_put before.core.memory.byte hwidth h.allowed v signed
    rw [InstructionWord.execute_of_some hi] at hok ⊢
    -- What the fetch brings extends the value, and nothing else does.
    rw [Instruction.peek_execute_fetch ⟨_, hi⟩ hok, if_pos rfl, if_neg hrz, h.byte]
    constructor
    · rintro rfl
      exact hextends
    · exact hextends.unique (hpos width hwidth)
  apart := by
    intro fetch width' signed a hi hapart
    rw [InstructionWord.execute_of_some hi]
    refine Instruction.execute_fetch_congr ⟨_, hi⟩ fetch.field before after h.register ?_
    rw [h.byte, FlatMemory.word_put_of_apart _ hapart]
  next := fun hi running hnext => step_fetch running hnext hi

/-- A store to an aligned address does not fault. What it has stored is found, whichever ways of
addressing store and fetch have, and all else is found as before. The store may be carried out on
its own or by the step that it is next for. -/
theorem stored_is_found {store : InstructionWord} {width : Nat} {a : Addressing} (m : Machine δ)
    (legal : Instruction.ofOpcode? store.opcode = some (.store width a)) :
    ((store.execute m).result = .ok () ↔
        width ∣ (a.destination store.field m.core.alu).toNat) ∧
      ((store.execute m).result = .ok () →
        Finds (a.destination store.field m.core.alu) width (m.core.alu.peek store.field.rx) m
          (store.execute m).state) ∧
      (m.halted = false → m.nextWord = some store → (step m).state.halted = false →
        Finds (a.destination store.field m.core.alu) width (m.core.alu.peek store.field.rx) m
          (step m).state) := by
  have hlegal : (Instruction.store width a).Legal := ⟨_, legal⟩
  rw [InstructionWord.execute_of_some legal]
  refine ⟨Instruction.result_execute_store hlegal, ?_, ?_⟩
  · intro hok
    exact finds_of_stored (hlegal.width_mem rfl) (Instruction.stored_execute hlegal hok)
  · intro running hnext hgoes
    exact finds_of_stored (hlegal.width_mem rfl) (stored_step running hnext legal hgoes)

/-- A machine with a value in register 1. -/
def holding (v : Word) : Machine Buffered :=
  { new ({} : Buffered) with core.alu := (Alu.write 1 v {}).state }

/-- The two low bytes of a value are stored at the address 8 and fetched from there with a sign. -/
theorem stored_is_found_pair :
    Instruction.ofOpcode? (InstructionWord.opcode 0x2A010800) = some (.store 2 .displaced) ∧
      ((InstructionWord.execute 0x1E080002
          (InstructionWord.execute 0x2A010800 (holding 0x1F00D)).state).state.core.alu.peek 2)
        = -4083 := by
  have hstore : Instruction.ofOpcode? (InstructionWord.opcode 0x2A010800)
      = some (.store 2 .displaced) := by
    rw [Instruction.ofOpcode?_eq_lookup]
    decide
  have hfetch : Instruction.ofOpcode? (InstructionWord.opcode 0x1E080002)
      = some (.fetch 2 true .displaced) := by
    rw [Instruction.ofOpcode?_eq_lookup]
    decide
  obtain ⟨hok, hfound, -⟩ := stored_is_found (holding 0x1F00D) hstore
  have hfinds := hfound (hok.mpr (by decide))
  refine ⟨hstore, ((hfinds.same hfetch ?_ (by decide)).2 _).mpr ?_⟩
  · rw [Addressing.source_congr _ _ hfinds.register]
    decide
  · rw [Word.Extends, if_pos rfl]
    decide

end Machine

end LectureMachine
