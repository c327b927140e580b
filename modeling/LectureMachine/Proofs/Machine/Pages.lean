import Mathlib.Data.List.DropRight
import LectureMachine.Proofs.Machine.Step
import LectureMachine.Proofs.Instruction.Change

/-!
# Pages

A page comes into being when something is put into it, be it zeros, and it stays until the memory is
reset. So the pages are told from the addresses that were written to, whatever was asked of the
memory in between, and of all instructions only a store can bring a page into being.
-/

namespace LectureMachine

open Transition

/-! ### The pages of a memory -/

namespace Memory

/-- The numbers of the pages that were written to. -/
def pageNumbers (m : Memory) : Finset Nat := m.pages.keys.toFinset

lemma pageCount_eq_card (m : Memory) : m.pageCount = m.pageNumbers.card := by
  rw [pageNumbers, List.toFinset_card_of_nodup Std.HashMap.nodup_keys, Std.HashMap.length_keys,
    pageCount]

lemma mem_pageNumbers {m : Memory} {n : Nat} : n ∈ m.pageNumbers ↔ n ∈ m.pages := by
  rw [pageNumbers, List.mem_toFinset, Std.HashMap.mem_keys]

@[simp] lemma pageNumbers_empty : pageNumbers {} = ∅ := by
  simp [pageNumbers]

/-- After a store there is the page that it goes to. -/
lemma pageNumbers_store (m : Memory) (page offset : Nat) (bytes : List Byte) :
    (m.store page offset bytes).pageNumbers = insert page m.pageNumbers := by
  ext n
  rw [mem_pageNumbers, store, Std.HashMap.mem_alter, Finset.mem_insert, mem_pageNumbers]
  by_cases h : n = page
  · simp [h]
  · simp [h, Ne.symm h]

lemma pageNumbers_storeProgram (m : Memory) (i : Nat) (program : List InstructionWord) :
    (m.storeProgram i program).pageNumbers =
      m.pageNumbers ∪ ((List.range' i program.length).map (4 * · / Page.size)).toFinset := by
  induction program generalizing m i with
  | nil => simp [storeProgram]
  | cons word words ih =>
    rw [storeProgram, ih, pageNumbers_store, List.length_cons, List.range'_succ, List.map_cons,
      List.toFinset_cons, Finset.insert_union, Finset.union_insert]

end Memory

/-! ### Requests -/

namespace MemoryRequest

/-- The addresses that a request puts something at: that of a write that is not refused, and those
of all words of a program. -/
def addresses : MemoryRequest → List Nat
  | write address width _ =>
    if FlatMemory.refusal? address width = none then [address.toNat] else []
  | load program => (List.range program.length).map (4 * ·)
  | read .. | peek .. | reset => []

/-- The pages of the addresses that requests put something at. -/
def pagesOf (requests : List MemoryRequest) : Finset Nat :=
  ((requests.flatMap addresses).map (· / 1024)).toFinset

/-- What was asked after the last reset. -/
def sinceReset (requests : List MemoryRequest) : List MemoryRequest :=
  requests.rtakeWhile (· ≠ reset)

@[simp] lemma pagesOf_nil : pagesOf [] = ∅ := rfl

lemma pagesOf_append (earlier later : List MemoryRequest) :
    pagesOf (earlier ++ later) = pagesOf earlier ∪ pagesOf later := by
  rw [pagesOf, List.flatMap_append, List.map_append, List.toFinset_append]
  rfl

/-- A request adds the pages of its addresses, unless it is a reset, which forgets all pages. -/
lemma pageNumbers_perform (request : MemoryRequest) (m : Memory) :
    (request.perform m).state.pageNumbers =
      if request = reset then ∅ else m.pageNumbers ∪ pagesOf [request] := by
  cases request with
  | write address width v =>
    simp only [perform, bind_apply, Memory.write_apply, Memory.locate_eq, reduceCtorEq, if_false,
      pagesOf, List.flatMap_singleton, addresses]
    cases FlatMemory.refusal? address width with
    | some fault => simp
    | none => simp [Memory.pageNumbers_store, Page.size]
  | load program =>
    have hstate : ((load program).perform m).state = m.storeProgram 0 program := rfl
    rw [hstate, Memory.pageNumbers_storeProgram, ← List.range_eq_range', if_neg (by simp), pagesOf,
      List.flatMap_singleton, addresses, List.map_map]
    rfl
  | read address width | peek address width =>
    rw [state_perform_of_looks_or_error _ m (.inl rfl), if_neg (by simp)]
    exact (Finset.union_empty _).symm
  | reset => exact Memory.pageNumbers_empty

/-- Either a write is done, and then there is its page, or it is refused and changes nothing. -/
lemma perform_write_cases (address : Word) (width : Nat) (v : Word) (m : Memory) :
    ((write address width v).perform m).result = .ok none ∧
        FlatMemory.refusal? address width = none ∧
        ((write address width v).perform m).state.pageNumbers
          = insert (address.toNat / 1024) m.pageNumbers ∨
      ∃ fault, ((write address width v).perform m).result = .error fault ∧
        FlatMemory.refusal? address width = some fault ∧
        ((write address width v).perform m).state = m := by
  have hresult := (perform_flat (write address width v) m).1
  rw [FlatMemory.answer] at hresult
  cases h : FlatMemory.refusal? address width with
  | none =>
    rw [h] at hresult
    refine .inl ⟨hresult, rfl, ?_⟩
    rw [pageNumbers_perform, if_neg (by simp), Finset.union_comm]
    simp [pagesOf, addresses, h]
  | some fault =>
    rw [h] at hresult
    refine .inr ⟨fault, hresult, rfl, ?_⟩
    exact state_perform_of_looks_or_error _ m (.inr ⟨fault, hresult⟩)

lemma state_performAll_append (requests : List MemoryRequest) (request : MemoryRequest)
    (m : Memory) :
    (performAll (requests ++ [request]) m).state =
      (request.perform (performAll requests m).state).state := by
  induction requests generalizing m with
  | nil =>
    rw [List.nil_append, performAll_cons]
    rfl
  | cons first requests ih =>
    rw [List.cons_append, performAll_cons, performAll_cons]
    exact ih _

/-- The pages are those that were written to since the last reset. -/
lemma pageNumbers_performAll (requests : List MemoryRequest) :
    (performAll requests {}).state.pageNumbers = pagesOf (sinceReset requests) := by
  induction requests using List.reverseRecOn with
  | nil => exact Memory.pageNumbers_empty
  | append_singleton requests request ih =>
    rw [state_performAll_append, pageNumbers_perform, sinceReset, List.rtakeWhile_concat, ih]
    by_cases h : request = reset
    · simp [h]
    · simp [h, pagesOf_append, sinceReset]

/-- A program fills one page after the other, the last one perhaps in part. -/
lemma pagesOf_load (program : List InstructionWord) :
    pagesOf [load program] = Finset.range ((program.length + 255) / 256) := by
  ext n
  have hfits : n < (program.length + 255) / 256 ↔ 256 * n < program.length := by omega
  rw [Finset.mem_range, hfits]
  simp only [pagesOf, List.flatMap_singleton, addresses, List.map_map, List.mem_toFinset,
    List.mem_map, List.mem_range, Function.comp]
  constructor
  · rintro ⟨i, hi, rfl⟩
    omega
  · intro h
    exact ⟨256 * n, h, by omega⟩

end MemoryRequest

/-! ### Steps -/

variable {δ : Type} [Device δ]

/-- Only a store puts something into memory. -/
lemma Instruction.memory_execute {i : Instruction} (legal : i.Legal) (field : OperandField)
    (m : Machine δ) :
    (i.execute field m).state.core.memory = m.core.memory ∨
      ∃ width a page offset bytes, i = .store width a ∧
        (i.execute field m).state.core.memory = m.core.memory.store page offset bytes := by
  cases hr : (i.execute field m).result with
  | error f =>
    rw [i.execute_precise field hr]
    exact .inl rfl
  | ok _ =>
    rw [(execute_of_allowed legal (refusal?_eq_none legal hr)).2]
    cases i with
    | store width a => exact .inr ⟨width, a, _, _, _, rfl, rfl⟩
    | _ => exact .inl rfl

namespace Machine

open MemoryRequest

lemma memory_step (m : Machine δ) :
    (step m).state.core.memory = m.core.memory ∨
      ∃ width a page offset bytes, m.nextInstruction = some (.store width a) ∧
        (step m).state.core.memory = m.core.memory.store page offset bytes := by
  cases running : m.halted with
  | true =>
    rw [step_of_halted running]
    exact .inl rfl
  | false =>
    obtain ⟨ip, jumped, hcore⟩ := core_step running
    rw [hcore]
    cases hi : m.nextInstruction with
    | none =>
      obtain ⟨f, ir, done, he, -⟩ := executeCurrent_of_nextInstruction_eq_none hi
      rw [he]
      exact .inl rfl
    | some i =>
      obtain ⟨word, v, -, hop, he⟩ := executeCurrent_of_nextInstruction hi
      obtain h | ⟨width, a, page, offset, bytes, rfl, h⟩ :=
        Instruction.memory_execute ⟨_, hop⟩ word.field { m with core.ir := word }
      · rw [he]
        exact .inl h
      · rw [he]
        exact .inr ⟨width, a, page, offset, bytes, rfl, h⟩

/-- A step leaves the pages alone, or it stores something and there is one page more. -/
lemma pageCount_step (m : Machine δ) :
    (step m).state.core.memory.pageCount = m.core.memory.pageCount ∨
      (step m).state.core.memory.pageCount = m.core.memory.pageCount + 1 ∧
        ∃ width a, m.nextInstruction = some (.store width a) := by
  obtain h | ⟨width, a, page, offset, bytes, hnext, h⟩ := m.memory_step
  · exact .inl (congrArg Memory.pageCount h)
  · rw [h, Memory.pageCount_eq_card, Memory.pageNumbers_store, Memory.pageCount_eq_card]
    by_cases hpage : page ∈ m.core.memory.pageNumbers
    · exact .inl (congrArg Finset.card (Finset.insert_eq_of_mem hpage))
    · exact .inr ⟨Finset.card_insert_of_notMem hpage, width, a, hnext⟩

/-- Whatever is asked of a memory, it has the pages of the addresses that were written to since the
last reset, and no others. To look makes no page, and neither does a write that is refused; any
other write makes sure that there is the page of its address, even if it writes zeros. A program
fills one page after the other with 256 words each. A step of a machine makes one page at most, and
only if it is a store. -/
theorem pages_made_by_writes (requests : List MemoryRequest) (memory : Memory) (m : Machine δ) :
    (performAll requests {}).state.pageCount = (pagesOf (sinceReset requests)).card ∧
      (∀ address width,
        ((read address width).perform memory).state = memory ∧
          ((peek address width).perform memory).state = memory) ∧
      (∀ address width v,
        ((write address width v).perform memory).result = .ok none ∧
            FlatMemory.refusal? address width = none ∧
            ((write address width v).perform memory).state.pageNumbers
              = insert (address.toNat / 1024) memory.pageNumbers ∨
          ∃ fault, ((write address width v).perform memory).result = .error fault ∧
            FlatMemory.refusal? address width = some fault ∧
            ((write address width v).perform memory).state = memory) ∧
      ((load []).perform memory).state = memory ∧
      (∀ program, ((load program).perform {}).state.pageCount = (program.length + 255) / 256) ∧
      ((step m).state.core.memory.pageCount = m.core.memory.pageCount ∨
        (step m).state.core.memory.pageCount = m.core.memory.pageCount + 1 ∧
          ∃ width a, m.nextInstruction = some (.store width a)) := by
  refine ⟨?_, fun address width => ⟨?_, ?_⟩, ?_, rfl, fun program => ?_, m.pageCount_step⟩
  · rw [Memory.pageCount_eq_card, pageNumbers_performAll]
  · exact state_perform_of_looks_or_error _ memory (.inl rfl)
  · exact state_perform_of_looks_or_error _ memory (.inl rfl)
  · exact fun address width v => perform_write_cases address width v memory
  · rw [Memory.pageCount_eq_card, pageNumbers_perform, if_neg (by simp), Memory.pageNumbers_empty,
      Finset.empty_union, pagesOf_load, Finset.card_range]

end Machine

end LectureMachine
