import LectureMachine.Proofs.Memory.Bytes

/-!
# Flat memory

A flat memory has a byte for every address and nothing else: no pages, no order in which they came
into being, no second way of loading. Whoever only makes requests cannot tell the paged memory from
a flat one.
-/

namespace LectureMachine

/-! ### Requests -/

/-- What can be asked of a memory. -/
inductive MemoryRequest
  | write (address : Word) (width : Nat) (v : Word)
  | load (program : List InstructionWord)
  | read (address : Word) (width : Nat)
  | peek (address : Word) (width : Nat)
  | reset
  deriving DecidableEq, Repr

namespace MemoryRequest

/-- Does what is asked. The answer to reading and peeking is a value. -/
def perform : MemoryRequest → Transition Memory (Option Word)
  | write address width v => do
    Memory.write address width v
    return none
  | load program => do
    Memory.loadProgram program
    return none
  | read address width => do
    let v ← Memory.read address width
    return some v
  | peek address width => do
    let v ← Transition.ofExcept ((← get).peek address width)
    return some v
  | reset => do
    Memory.reset
    return none

/-- Does all that is asked, one after the other; a request that is refused is passed over. -/
def performAll (requests : List MemoryRequest) :
    Transition Memory (List (Except Fault (Option Word))) :=
  requests.mapM fun request => request.perform.attempt

/-- Whether a request asks for a value and for nothing else. -/
def looks : MemoryRequest → Bool
  | read .. | peek .. => true
  | _ => false

end MemoryRequest

/-! ### Flat memories -/

/-- A byte for every address. -/
abbrev FlatMemory := Word → Byte

namespace FlatMemory

/-- Why an access is refused, if it is. -/
def refusal? (address : Word) (width : Nat) : Option Fault :=
  if ¬ (1 ≤ width ∧ width ≤ 8) then some (.invalidWidth width)
  else if ¬ width ∣ address.toNat % 1024 then some (.misaligned address width)
  else if ¬ address.toNat % 1024 + width ≤ 1024 then some (.crossesPage address width)
  else none

/-- The number in the bytes from an address on, the most significant one first. -/
def value (f : FlatMemory) (address : Word) (width : Nat) : Nat :=
  ∑ i ∈ Finset.range width, (f (address + BitVec.ofNat 64 i)).toNat * 256 ^ (width - 1 - i)

/-- Puts the low bytes of a word at an address and those after it, the most significant one
first. -/
def put (f : FlatMemory) (address : Word) (width : Nat) (v : Word) : FlatMemory := fun x =>
  if address.toNat ≤ x.toNat ∧ x.toNat < address.toNat + width then
    BitVec.ofNat 8 (v.toNat / 256 ^ (address.toNat + width - 1 - x.toNat))
  else f x

/-- Puts the four bytes of the word with the index `i` at `4 * i` and the addresses after it. -/
def putProgram (f : FlatMemory) (program : List InstructionWord) : FlatMemory := fun x =>
  match program[x.toNat / 4]? with
  | some word => BitVec.ofNat 8 (word.toNat / 256 ^ (3 - x.toNat % 4))
  | none => f x

/-- The answer to a request. -/
def answer (f : FlatMemory) : MemoryRequest → Except Fault (Option Word)
  | .write address width _ =>
    match refusal? address width with
    | some fault => .error fault
    | none => .ok none
  | .read address width | .peek address width =>
    match refusal? address width with
    | some fault => .error fault
    | none => .ok (some (BitVec.ofNat 64 (f.value address width)))
  | .load _ | .reset => .ok none

/-- The bytes after a request. -/
def after (f : FlatMemory) : MemoryRequest → FlatMemory
  | .write address width v => if refusal? address width = none then f.put address width v else f
  | .read .. | .peek .. => f
  | .load program => f.putProgram program
  | .reset => 0

/-- The answers to all that is asked, and the bytes after it. -/
def performAll : List MemoryRequest → FlatMemory → List (Except Fault (Option Word)) × FlatMemory
  | [], f => ([], f)
  | request :: requests, f =>
    match performAll requests (f.after request) with
    | (answers, g) => (f.answer request :: answers, g)

/-- An access that is allowed stays on its page. -/
lemma le_of_refusal?_eq_none {address : Word} {width : Nat} (h : refusal? address width = none) :
    address.toNat % Page.size + width ≤ Page.size := by
  simp only [refusal?] at h
  split_ifs at h with hwidth haligned hpage
  exact hpage

lemma le_eight_of_refusal?_eq_none {address : Word} {width : Nat}
    (h : refusal? address width = none) : width ≤ 8 := by
  simp only [refusal?] at h
  split_ifs at h with hwidth haligned hpage
  exact hwidth.2

/-- A value fits into the bytes that it is made of. -/
lemma value_lt_pow (f : FlatMemory) (address : Word) (width : Nat) :
    f.value address width < 256 ^ width := by
  have hlt := BigEndian.value_lt
    ((List.range width).map fun i => f (address + BitVec.ofNat 64 i))
  rw [BigEndian.value_map_range, List.length_map, List.length_range] at hlt
  exact hlt

/-- A value fits into a word. -/
lemma value_lt (f : FlatMemory) (address : Word) {width : Nat} (h : width ≤ 8) :
    f.value address width < 2 ^ 64 := by
  calc f.value address width
      < 256 ^ width := value_lt_pow f address width
    _ ≤ 256 ^ 8 := Nat.pow_le_pow_right (by decide) h
    _ = 2 ^ 64 := by decide

end FlatMemory

/-! ### The paged memory is flat -/

namespace Memory

lemma locate_eq (address : Word) (width : Nat) :
    locate address width =
      match FlatMemory.refusal? address width with
      | some fault => .error fault
      | none => .ok (address.toNat / Page.size, address.toNat % Page.size) := by
  have hwidth : (width = 0 ∨ 8 < width) ↔ ¬ (1 ≤ width ∧ width ≤ 8) := by omega
  have haligned : address.toNat % Page.size % width ≠ 0 ↔ ¬ width ∣ address.toNat % Page.size :=
    not_congr (Nat.dvd_iff_mod_eq_zero).symm
  have hpage : Page.size < address.toNat % Page.size + width ↔
      ¬ address.toNat % Page.size + width ≤ Page.size := by omega
  simp only [locate, FlatMemory.refusal?, hwidth, haligned, hpage]
  split_ifs with h₁ h₂ h₃ <;> simp_all [Page.size]

lemma peek_eq (m : Memory) (address : Word) (width : Nat) :
    m.peek address width =
      match FlatMemory.refusal? address width with
      | some fault => .error fault
      | none => .ok (BitVec.ofNat 64 (FlatMemory.value m.byte address width)) := by
  rw [peek, locate_eq]
  cases h : FlatMemory.refusal? address width with
  | some fault => rfl
  | none =>
    have hpage := FlatMemory.le_of_refusal?_eq_none h
    rw [FlatMemory.value, ← m.fetch_eq_sum address hpage]
    cases hp : m.pages[address.toNat / Page.size]? with
    | some page => simp [bind, Except.bind, pure, Except.pure, hp]
    | none => simp [bind, Except.bind, pure, Except.pure, hp, Page.fetch_blank hpage]

lemma byte_store_write (m : Memory) (address : Word) (width : Nat) (v : Word)
    (h : FlatMemory.refusal? address width = none) :
    (m.store (address.toNat / Page.size) (address.toNat % Page.size)
        (BigEndian.bytes v.toNat width)).byte
      = FlatMemory.put m.byte address width v := by
  funext x
  have hpage := FlatMemory.le_of_refusal?_eq_none h
  rw [byte_store m address.toNat _ (by simpa using hpage), FlatMemory.put]
  by_cases hlow : address.toNat ≤ x.toNat
  · by_cases hhigh : x.toNat < address.toNat + width
    · have : width - 1 - (x.toNat - address.toNat) = address.toNat + width - 1 - x.toNat := by
        omega
      rw [if_pos hlow, if_pos ⟨hlow, hhigh⟩, BigEndian.getElem?_bytes _ (by omega), this,
        Option.getD_some]
    · rw [if_pos hlow, if_neg (by omega), List.getElem?_eq_none (by simp; omega),
        Option.getD_none]
  · rw [if_neg hlow, if_neg (by omega)]

/-- Loading from the word `i` on puts four bytes for every word. -/
lemma byte_storeProgram (m : Memory) (i : Nat) (program : List InstructionWord) (x : Word) :
    (m.storeProgram i program).byte x =
      if 4 * i ≤ x.toNat then
        match program[x.toNat / 4 - i]? with
        | some word => BitVec.ofNat 8 (word.toNat / 256 ^ (3 - x.toNat % 4))
        | none => m.byte x
      else m.byte x := by
  induction program generalizing m i with
  | nil => simp [storeProgram]
  | cons word words ih =>
    have hpage : 4 * i % Page.size + (BigEndian.bytes word.toNat 4).length ≤ Page.size := by
      rw [BigEndian.length_bytes]
      simp only [Page.size]
      omega
    rw [storeProgram, ih, byte_store m (4 * i) _ hpage]
    by_cases hlow : 4 * i ≤ x.toNat
    · by_cases hhigh : 4 * (i + 1) ≤ x.toNat
      · have hindex : x.toNat / 4 - i = (x.toNat / 4 - (i + 1)) + 1 := by omega
        have hpast : (BigEndian.bytes word.toNat 4)[x.toNat - 4 * i]? = none :=
          List.getElem?_eq_none (by rw [BigEndian.length_bytes]; omega)
        rw [if_pos hhigh, if_pos hlow, if_pos hlow, hindex, List.getElem?_cons_succ, hpast,
          Option.getD_none]
      · have hindex : x.toNat / 4 - i = 0 := by omega
        have hplace : 4 - 1 - (x.toNat - 4 * i) = 3 - x.toNat % 4 := by omega
        rw [if_neg hhigh, if_pos hlow, if_pos hlow, hindex, List.getElem?_cons_zero,
          BigEndian.getElem?_bytes _ (by omega), Option.getD_some, hplace]
    · rw [if_neg (by omega), if_neg hlow, if_neg hlow]

/-- The words of a program can be read where they were loaded. -/
lemma peek_storeProgram (m : Memory) {program : List InstructionWord} {i : Nat}
    (hi : i < program.length) (hfit : 4 * i < 2 ^ 64) :
    (m.storeProgram 0 program).peek (BitVec.ofNat 64 (4 * i)) 4
      = .ok (program[i].setWidth 64) := by
  have hallowed : FlatMemory.refusal? (BitVec.ofNat 64 (4 * i)) 4 = none := by
    simp only [FlatMemory.refusal?, BitVec.toNat_ofNat, Nat.mod_eq_of_lt hfit]
    rw [if_neg (by omega), if_neg (by omega), if_neg (by omega)]
  have hbytes : (List.range 4).map
        (fun j => (m.storeProgram 0 program).byte (BitVec.ofNat 64 (4 * i) + BitVec.ofNat 64 j))
      = BigEndian.bytes program[i].toNat 4 := by
    refine List.ext_getElem? fun j => ?_
    by_cases hj : j < 4
    · have haddress : (BitVec.ofNat 64 (4 * i) + BitVec.ofNat 64 j).toNat = 4 * i + j := by
        rw [BitVec.toNat_add, BitVec.toNat_ofNat, BitVec.toNat_ofNat]
        omega
      have hindex : (4 * i + j) / 4 - 0 = i := by omega
      have hplace : (4 * i + j) % 4 = j := by omega
      rw [List.getElem?_map, List.getElem?_range hj, Option.map_some, byte_storeProgram, haddress,
        if_pos (by omega), hindex, hplace, List.getElem?_eq_getElem hi,
        BigEndian.getElem?_bytes _ hj]
    · rw [List.getElem?_eq_none (by simp; omega), List.getElem?_eq_none (by simp; omega)]
  rw [peek_eq, hallowed]
  simp only [FlatMemory.value]
  rw [← BigEndian.value_map_range, hbytes, BigEndian.value_bytes]
  congr 1
  have := program[i].isLt
  apply BitVec.eq_of_toNat_eq
  rw [BitVec.toNat_ofNat, BitVec.toNat_setWidth]
  omega

end Memory

namespace MemoryRequest

/-- One request: the paged memory gives the answer of its bytes and changes them likewise. -/
lemma perform_flat (request : MemoryRequest) (m : Memory) :
    (request.perform m).result = FlatMemory.answer m.byte request ∧
      (request.perform m).state.byte = FlatMemory.after m.byte request := by
  cases request with
  | write address width v =>
    simp only [perform, Transition.bind_apply, Memory.write_apply, Memory.locate_eq,
      FlatMemory.answer, FlatMemory.after]
    cases h : FlatMemory.refusal? address width with
    | some fault => exact ⟨rfl, rfl⟩
    | none => exact ⟨rfl, m.byte_store_write address width v h⟩
  | load program =>
    refine ⟨rfl, funext fun x => ?_⟩
    have h := m.byte_storeProgram 0 program x
    rwa [if_pos (by omega)] at h
  | read address width =>
    simp only [perform, Transition.bind_apply, Memory.read_apply, Memory.peek_eq,
      FlatMemory.answer, FlatMemory.after]
    cases FlatMemory.refusal? address width <;> exact ⟨rfl, rfl⟩
  | peek address width =>
    simp only [perform, Transition.bind_apply, Transition.get_apply, Transition.ofExcept_apply,
      Memory.peek_eq, FlatMemory.answer, FlatMemory.after]
    cases FlatMemory.refusal? address width <;> exact ⟨rfl, rfl⟩
  | reset => exact ⟨rfl, funext Memory.byte_empty⟩

/-- Looking, and a request that is refused, leave the memory as it was. -/
lemma state_perform_of_looks_or_error (request : MemoryRequest) (m : Memory)
    (h : request.looks = true ∨ ∃ fault, (request.perform m).result = .error fault) :
    (request.perform m).state = m := by
  cases request with
  | write address width v =>
    obtain h | ⟨fault, h⟩ := h
    · cases h
    · simp only [perform, Transition.bind_apply, Memory.write_apply] at h ⊢
      cases hl : Memory.locate address width with
      | error fault => simp
      | ok place => simp [hl] at h
  | load program =>
    obtain h | ⟨fault, h⟩ := h
    · cases h
    · cases h
  | read address width =>
    simp only [perform, Transition.bind_apply, Memory.read_apply]
    cases m.peek address width <;> rfl
  | peek address width =>
    simp only [perform, Transition.bind_apply, Transition.get_apply, Transition.ofExcept_apply]
    cases m.peek address width <;> rfl
  | reset =>
    obtain h | ⟨fault, h⟩ := h
    · cases h
    · cases h

lemma performAll_cons (request : MemoryRequest) (requests : List MemoryRequest) (m : Memory) :
    performAll (request :: requests) m =
      match performAll requests (request.perform m).state with
      | ⟨result, m', done⟩ =>
        ⟨result.map ((request.perform m).result :: ·), m',
          (request.perform m).activity ++ done⟩ := by
  rw [performAll, List.mapM_cons, ← performAll]
  rcases h : performAll requests (request.perform m).state with ⟨f | answers, m', done⟩ <;>
    simp [Transition.bind_apply, h, Except.map]

lemma performAll_flat (requests : List MemoryRequest) (m : Memory) :
    (performAll requests m).result = .ok (FlatMemory.performAll requests m.byte).1 ∧
      (performAll requests m).state.byte = (FlatMemory.performAll requests m.byte).2 := by
  induction requests generalizing m with
  | nil => exact ⟨rfl, rfl⟩
  | cons request requests ih =>
    obtain ⟨hanswer, hafter⟩ := perform_flat request m
    obtain ⟨hanswers, hbytes⟩ := ih (request.perform m).state
    rw [hafter] at hanswers hbytes
    rw [performAll_cons, FlatMemory.performAll]
    refine ⟨?_, hbytes⟩
    simp only [hanswers, hanswer, Except.map]

/-- Starting from nothing, a paged memory gives the answers of a flat memory of zeros to any
requests, and it always holds the same bytes. The values that it answers with are exact, and
looking and refused requests change nothing at all. -/
theorem performAll_eq_flat (requests : List MemoryRequest) :
    (performAll requests {}).result = .ok (FlatMemory.performAll requests 0).1 ∧
      (performAll requests {}).state.byte = (FlatMemory.performAll requests 0).2 ∧
      (∀ address width v,
        FlatMemory.answer (performAll requests {}).state.byte (.peek address width) = .ok (some v) →
          v.toNat = FlatMemory.value (performAll requests {}).state.byte address width) ∧
      ∀ request : MemoryRequest,
        (request.looks = true ∨
          ∃ fault, (request.perform (performAll requests {}).state).result = .error fault) →
        (request.perform (performAll requests {}).state).state
          = (performAll requests {}).state := by
  have hzero : Memory.byte {} = 0 := funext Memory.byte_empty
  have hflat := performAll_flat requests {}
  rw [hzero] at hflat
  refine ⟨hflat.1, hflat.2, fun address width v h => ?_,
    fun request => request.state_perform_of_looks_or_error _⟩
  rw [FlatMemory.answer] at h
  cases hrefusal : FlatMemory.refusal? address width with
  | some fault => simp [hrefusal] at h
  | none =>
    simp only [hrefusal, Except.ok.injEq, Option.some.injEq] at h
    rw [← h, BitVec.toNat_ofNat]
    have hwidth := FlatMemory.le_eight_of_refusal?_eq_none hrefusal
    exact Nat.mod_eq_of_lt (FlatMemory.value_lt _ _ hwidth)

end MemoryRequest

end LectureMachine
