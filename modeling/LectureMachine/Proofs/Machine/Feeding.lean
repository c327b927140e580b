import LectureMachine.Proofs.Machine.Blocking

/-!
# More input

Input that is added at the end of the queue is not seen by a machine that still has input, nor by
one that asks for none. So every part of a step commutes with adding input, except for a step that
waits for it. A step that waits changes so little that it can be tried again, and the bytes that a
step takes come off the front of the queue.
-/

namespace LectureMachine

open Transition

variable {α : Type}

/-- The same outcome with another state. -/
def Outcome.mapState {σ τ : Type} (f : σ → τ) (o : Outcome σ α) : Outcome τ α :=
  ⟨o.result, f o.state, o.activity⟩

namespace Machine

/-- Input is added at the end of the queue. -/
def fed (m : Machine Buffered) (bytes : List Byte) : Machine Buffered :=
  { m with device := m.device.pushInput bytes }

@[simp] lemma fed_nil (m : Machine Buffered) : m.fed [] = m := by
  simp [fed, Buffered.pushInput]

@[simp] lemma fed_fed (m : Machine Buffered) (bytes more : List Byte) :
    (m.fed bytes).fed more = m.fed (bytes ++ more) := by
  simp [fed, Buffered.pushInput]

lemma starved_iff {m : Machine Buffered} :
    m.Starved ↔ m.nextInstruction = some .getc ∧ m.device.input = [] := by
  simp [Starved, Device.poll]

/-! ### Adding input commutes with steps -/

lemma execute_fed {i : Instruction} {m : Machine Buffered} (h : i = .getc → m.device.input ≠ [])
    (field : OperandField) (bytes : List Byte) :
    i.execute field (m.fed bytes) = (i.execute field m).mapState (·.fed bytes) := by
  rcases i.execute_cases field with ⟨code, rfl⟩ | rfl | ⟨byte, rfl⟩ | ⟨t, -, hi⟩
  · rw [Instruction.execute_halt_apply, Instruction.execute_halt_apply]
    rfl
  · obtain ⟨b, rest, hinput⟩ := List.exists_cons_of_ne_nil (h rfl)
    have hready : (Device.poll m.device).1 = true := by simp [Device.poll, hinput]
    have hready' : (Device.poll (m.fed bytes).device).1 = true := by
      simp [Device.poll, fed, Buffered.pushInput, hinput]
    rw [Instruction.execute_getc_of_ready hready, Instruction.execute_getc_of_ready hready']
    simp [Outcome.mapState, fed, Buffered.pushInput, Device.poll, Device.get, hinput]
  · rw [Instruction.execute_putc_apply, Instruction.execute_putc_apply]
    rfl
  · rw [hi, onCore_apply, onCore_apply]
    rfl

lemma executeCurrent_fed {m : Machine Buffered} (h : ¬ m.Starved) (bytes : List Byte) :
    executeCurrent (m.fed bytes) = (executeCurrent m).mapState (·.fed bytes) := by
  cases hv : m.core.memory.peek m.core.ip 4 with
  | error f =>
    rw [executeCurrent_of_error hv, executeCurrent_of_error (m := m.fed bytes) hv]
    rfl
  | ok v =>
    rw [executeCurrent_of_ok hv, executeCurrent_of_ok (m := m.fed bytes) hv]
    cases hi : Instruction.ofOpcode? (InstructionWord.opcode (v.setWidth 32)) with
    | none =>
      rw [InstructionWord.execute_of_none hi]
      rfl
    | some i =>
      have hinput : i = .getc → m.device.input ≠ [] := by
        rintro rfl hnil
        exact h (starved_iff.mpr ⟨by simp [nextInstruction, nextWord, hv, hi], hnil⟩)
      have he := execute_fed (m := { m with core.ir := v.setWidth 32 }) hinput
        (InstructionWord.field (v.setWidth 32)) bytes
      rw [InstructionWord.execute_of_some hi]
      exact congrArg (Outcome.after [.memory (.read m.core.ip 4 v)]) he

lemma advance_fed (m : Machine Buffered) (bytes : List Byte) :
    advance (m.fed bytes) = (advance m).mapState (·.fed bytes) := by
  cases hh : m.halted with
  | true =>
    rw [advance_of_halted hh, advance_of_halted (m := m.fed bytes) hh]
    rfl
  | false =>
    cases hb : m.blocked with
    | true =>
      rw [advance_of_blocked hh hb, advance_of_blocked (m := m.fed bytes) hh hb]
      rfl
    | false =>
      rw [advance_of_running hh hb, advance_of_running (m := m.fed bytes) hh hb]
      rfl

/-- Unless it waits for input, a machine with more input takes the same step. -/
lemma step_fed {m : Machine Buffered} (h : ¬ m.Starved) (bytes : List Byte) :
    step (m.fed bytes) = (step m).mapState (·.fed bytes) := by
  cases running : m.halted with
  | true =>
    rw [step_of_halted running, step_of_halted (m := m.fed bytes) running]
    rfl
  | false =>
    have he := executeCurrent_fed h bytes
    rcases hm : executeCurrent m with ⟨f | ⟨⟩, m', done⟩ <;> rw [hm] at he
    · rw [step_of_error running hm, step_of_error (m := m.fed bytes) running he]
      rfl
    · rw [step_of_ok running hm, step_of_ok (m := m.fed bytes) running he, advance_fed]
      rfl

/-! ### Trying again -/

/-- An instruction that waited for input is carried out as if it were for the first time. -/
lemma executeCurrent_waiting {m : Machine Buffered} (hi : m.nextInstruction = some .getc)
    (word : InstructionWord) : executeCurrent (m.waiting word) = executeCurrent m := by
  cases hv : m.core.memory.peek m.core.ip 4 with
  | error f => simp [nextInstruction, nextWord, hv] at hi
  | ok v =>
    have hop : Instruction.ofOpcode? (InstructionWord.opcode (v.setWidth 32)) = some .getc := by
      simpa [nextInstruction, nextWord, hv] using hi
    rw [executeCurrent_of_ok hv, executeCurrent_of_ok (m := m.waiting word) hv,
      InstructionWord.execute_of_some hop]
    cases hr : (Device.poll m.device).1 with
    | false =>
      rw [Instruction.execute_getc_of_not_ready (m := { m with core.ir := v.setWidth 32 }) hr,
        Instruction.execute_getc_of_not_ready
          (m := { m.waiting word with core.ir := v.setWidth 32 }) hr]
      rfl
    | true =>
      rw [Instruction.execute_getc_of_ready (m := { m with core.ir := v.setWidth 32 }) hr,
        Instruction.execute_getc_of_ready
          (m := { m.waiting word with core.ir := v.setWidth 32 }) hr]
      rfl

lemma step_waiting {m : Machine Buffered} (running : m.halted = false)
    (hi : m.nextInstruction = some .getc) (word : InstructionWord) :
    step (m.waiting word) = step m := by
  have he := executeCurrent_waiting hi word
  rcases hm : executeCurrent m with ⟨f | ⟨⟩, m', done⟩ <;> rw [hm] at he
  · rw [step_of_error running hm, step_of_error (m := m.waiting word) running he]
  · rw [step_of_ok running hm, step_of_ok (m := m.waiting word) running he]

/-! ### Taking input -/

end Machine

/-- The byte that is taken from the device, if that is what is done. -/
def Activity.taken? : Activity → Option Byte
  | .device (.get b) => some b
  | _ => none

/-- The bytes that are taken from the device, in order. -/
def taken (done : List Activity) : List Byte := done.filterMap Activity.taken?

@[simp] lemma taken_append (done more : List Activity) :
    taken (done ++ more) = taken done ++ taken more :=
  List.filterMap_append

lemma taken_of_isAccess {done : List Activity} (h : ∀ a ∈ done, a.IsAccess) : taken done = [] := by
  refine List.filterMap_eq_nil_iff.mpr fun a ha => ?_
  have haccess := h a ha
  cases a with
  | register _ | memory _ => rfl
  | device _ | machine _ => exact haccess.elim

lemma taken_reads (x : Operand) (field : OperandField) (alu : Alu) :
    taken (x.reads field alu) = [] := by
  cases x <;> rfl

namespace Machine

lemma taken_append_execute (i : Instruction) (field : OperandField) (m : Machine Buffered) :
    taken (i.execute field m).activity ++ (i.execute field m).state.device.input
      = m.device.input := by
  rcases i.execute_cases field with ⟨code, rfl⟩ | rfl | ⟨byte, rfl⟩ | ⟨t, ht, hi⟩
  · rw [Instruction.execute_halt_apply, taken_reads, List.nil_append]
  · cases hinput : m.device.input with
    | nil =>
      have hr : (Device.poll m.device).1 = false := by simp [Device.poll, hinput]
      rw [Instruction.execute_getc_of_not_ready hr]
      exact hinput
    | cons b rest =>
      have hr : (Device.poll m.device).1 = true := by simp [Device.poll, hinput]
      rw [Instruction.execute_getc_of_ready hr]
      simp only [Device.poll, Device.get, hinput]
      rfl
  · rw [Instruction.execute_putc_apply, taken_append, taken_reads, List.nil_append]
    rfl
  · rw [hi, onCore_apply, taken_of_isAccess (ht.emits _), List.nil_append]

lemma taken_append_executeCurrent (m : Machine Buffered) :
    taken (executeCurrent m).activity ++ (executeCurrent m).state.device.input
      = m.device.input := by
  cases hi : m.nextInstruction with
  | none =>
    obtain ⟨f, ir, done, he, hdone⟩ := executeCurrent_of_nextInstruction_eq_none hi
    rw [he, taken_of_isAccess hdone, List.nil_append]
  | some i =>
    obtain ⟨word, v, -, -, he⟩ := executeCurrent_of_nextInstruction hi
    rw [he]
    exact taken_append_execute i word.field { m with core.ir := word }

/-- The bytes that a step takes come off the front of the queue, and no others. -/
lemma taken_append_step (m : Machine Buffered) :
    taken (step m).activity ++ (step m).state.device.input = m.device.input := by
  cases running : m.halted with
  | true =>
    rw [step_of_halted running]
    rfl
  | false =>
    have htaken := m.taken_append_executeCurrent
    rcases hm : executeCurrent m with ⟨f | ⟨⟩, m', done⟩ <;> rw [hm] at htaken
    · rw [step_of_error running hm, taken_append, List.append_assoc]
      exact htaken
    · obtain ⟨status, core, steps, event, hadvance⟩ := advance_shape m'
      rw [step_of_ok running hm, hadvance, Outcome.activity_after, taken_append, List.append_assoc]
      exact htaken

end Machine

end LectureMachine
