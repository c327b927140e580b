import LectureMachine.Proofs.Machine.Calls
import LectureMachine.Proofs.Machine.Flaw
import LectureMachine.Proofs.Machine.Halting

/-!
# The device protocol

A machine asks its device for a byte before it takes one, and it takes one just if there is one. It
calls the device for nothing but the instructions that read and write. Here this is proved of every
step, whatever the device answers, and a run is nothing but its steps.
-/

namespace LectureMachine

variable {δ ε : Type} [Device δ]

/-- The call is for a step or for a run, with a limit or without. -/
def Call.IsStepping : Call δ → Prop
  | .step | .runFor _ | .run => True
  | _ => False

/-! ### Calls of a device -/

/-- The device can be called like this, one call after the other: it gives the answers that are
listed, and in the end it is as the last call leaves it. -/
def Device.Makes : δ → List DeviceEvent → δ → Prop
  | d, [], last => last = d
  | d, .put b :: calls, last => Makes (put b d) calls last
  | d, .get b :: calls, last => (get d).1 = b ∧ Makes (get d).2 calls last
  | d, .poll ready :: calls, last => (poll d).1 = ready ∧ Makes (poll d).2 calls last
  | d, .reset :: calls, last => Makes (reset d) calls last

lemma Device.Makes.append {d middle last : δ} {calls more : List DeviceEvent}
    (h : Makes d calls middle) (hmore : Makes middle more last) : Makes d (calls ++ more) last := by
  induction calls generalizing d with
  | nil =>
    obtain rfl := h
    exact hmore
  | cons call calls ih =>
    cases call with
    | put b => exact ih h
    | get b => exact ⟨h.1, ih h.2⟩
    | poll ready => exact ⟨h.1, ih h.2⟩
    | reset => exact ih h

/-- A byte is taken only right after the device has said that there is one. -/
def AsksFirst (calls : List DeviceEvent) : Prop :=
  ∀ {before after : List DeviceEvent} {b : Byte}, calls = before ++ .get b :: after →
    ∃ earlier, before = earlier ++ [.poll true]

lemma asksFirst_of_forall_ne {calls : List DeviceEvent} (h : ∀ b, .get b ∉ calls) :
    AsksFirst calls := by
  intro before after b hcalls
  exact absurd (by simp [hcalls]) (h b)

lemma asksFirst_pair (b : Byte) : AsksFirst [.poll true, .get b] := by
  intro before after b' hcalls
  rcases before with - | ⟨call, - | ⟨call', before⟩⟩
  · cases hcalls
  · obtain ⟨rfl, -⟩ := List.cons.inj hcalls
    exact ⟨[], rfl⟩
  · simp at hcalls

/-- The device calls among what is done. -/
def deviceCalls (done : List Activity) : List DeviceEvent := done.filterMap Activity.device?

@[simp] lemma deviceCalls_append (done more : List Activity) :
    deviceCalls (done ++ more) = deviceCalls done ++ deviceCalls more := List.filterMap_append

lemma deviceCalls_eq_nil {done : List Activity} (h : ∀ a ∈ done, a.IsAccess) :
    deviceCalls done = [] := by
  rw [deviceCalls, List.filterMap_eq_nil_iff]
  intro a ha
  have haccess := h a ha
  cases a with
  | device e => cases haccess
  | _ => rfl

/-! ### Instructions -/

namespace Instruction

/-- The calls that an instruction is there for. -/
def calls (i : Instruction) (field : OperandField) (m : Machine δ) : List DeviceEvent :=
  match i with
  | .getc =>
    if (Device.poll m.device).1 then
      [.poll true, .get (Device.get (Device.poll m.device).2).1]
    else [.poll false]
  | .putc byte => [.put ((byte.eval (·.ux) field m.core.alu).setWidth 8)]
  | _ => []

variable (i : Instruction) (field : OperandField) (m : Machine δ)

lemma asksFirst_calls : AsksFirst (i.calls field m) := by
  cases i with
  | getc =>
    rw [calls]
    split_ifs
    · exact asksFirst_pair _
    · exact asksFirst_of_forall_ne (by simp)
  | _ => exact asksFirst_of_forall_ne (by simp [calls])

/-- Only two instructions are there for calls. -/
lemma calls_eq_nil {i : Instruction} (hgetc : i ≠ .getc) (hputc : ∀ byte, i ≠ .putc byte) :
    i.calls field m = [] := by
  cases i with
  | getc => exact absurd rfl hgetc
  | putc byte => exact absurd rfl (hputc byte)
  | _ => rfl

/-- An instruction makes the calls that it is there for, and leaves the device as they do. -/
lemma calls_execute :
    deviceCalls (i.execute field m).activity = i.calls field m ∧
      Device.Makes m.device (i.calls field m) (i.execute field m).state.device := by
  -- The two that talk to the device come first, so that `calls` is known to be empty for the rest.
  by_cases hgetc : i = .getc
  · subst hgetc
    cases hready : (Device.poll m.device).1 with
    | false =>
      rw [execute_getc_of_not_ready hready, calls, hready]
      exact ⟨rfl, hready, rfl⟩
    | true =>
      have hwrite := deviceCalls_eq_nil ((Alu.runs_write field.rx
        ((Device.get (Device.poll m.device).2).1.setWidth 64)).emits m.core.alu)
      rw [execute_getc_of_ready hready, calls, hready, if_pos rfl, deviceCalls_append, hwrite]
      exact ⟨rfl, hready, rfl, rfl⟩
  by_cases hputc : ∃ byte, i = .putc byte
  · obtain ⟨byte, rfl⟩ := hputc
    have hreads := deviceCalls_eq_nil ((byte.looks_value (·.ux) field).emits m.core.alu)
    rw [Operand.value_apply] at hreads
    rw [execute_putc_apply, deviceCalls_append, hreads]
    exact ⟨rfl, rfl⟩
  rw [calls_eq_nil field m hgetc (not_exists.mp hputc)]
  rcases i.execute_cases field with ⟨code, rfl⟩ | hi | hi | ⟨t, ht, hi⟩
  · have hreads := deviceCalls_eq_nil ((code.looks_value (·.ux) field).emits m.core.alu)
    rw [Operand.value_apply] at hreads
    rw [execute_halt_apply]
    exact ⟨hreads, rfl⟩
  · exact absurd hi hgetc
  · exact absurd hi hputc
  · rw [hi, Machine.onCore_apply]
    exact ⟨deviceCalls_eq_nil (ht.emits m.core), rfl⟩

end Instruction

namespace Machine

/-! ### Steps -/

/-- The device calls of the next step. -/
def nextCalls (m : Machine δ) : List DeviceEvent := deviceCalls (step m).activity

lemma nextCalls_of_halted {m : Machine δ} (halted : m.halted = true) : m.nextCalls = [] := by
  rw [nextCalls, step_of_halted halted]
  rfl

section Running

variable {m : Machine δ} (running : m.halted = false)

include running

/-- The step adds no calls to those of the instruction. -/
lemma nextCalls_eq : m.nextCalls = deviceCalls (executeCurrent m).activity := by
  rw [nextCalls, activity_step_eq running, deviceCalls_append]
  exact List.append_nil _

lemma device_step : (step m).state.device = (executeCurrent m).state.device := by
  rcases he : executeCurrent m with ⟨f | ⟨⟩, m', done⟩
  · rw [step_of_error running he]
    rfl
  · obtain ⟨status, core, steps, event, hadvance⟩ := m'.advance_shape
    rw [step_of_ok running he, hadvance]
    rfl

lemma nextCalls_of_nextInstruction_eq_none (h : m.nextInstruction = none) :
    m.nextCalls = [] ∧ (step m).state.device = m.device := by
  obtain ⟨f, ir, done, he, hdone⟩ := executeCurrent_of_nextInstruction_eq_none h
  rw [nextCalls_eq running, device_step running, he]
  exact ⟨deviceCalls_eq_nil hdone, rfl⟩

lemma nextCalls_of_nextWord {word : InstructionWord} {i : Instruction}
    (hword : m.nextWord = some word) (hi : Instruction.ofOpcode? word.opcode = some i) :
    m.nextCalls = i.calls word.field m ∧
      Device.Makes m.device (i.calls word.field m) (step m).state.device := by
  obtain ⟨v, he⟩ := executeCurrent_of_nextWord hword
  rw [nextCalls_eq running, device_step running, he, InstructionWord.execute_of_some hi]
  exact i.calls_execute word.field { m with core.ir := word }

/-- What a step does to the registers when the next instruction reads a byte. -/
lemma peek_step_getc {word : InstructionWord} (hword : m.nextWord = some word)
    (hi : Instruction.ofOpcode? word.opcode = some .getc) (r : Register) :
    (step m).state.core.alu.peek r =
      if (Device.poll m.device).1 ∧ r = word.field.rx then
        (if r = 0 then 0 else (Device.get (Device.poll m.device).2).1.setWidth 64)
      else m.core.alu.peek r := by
  obtain ⟨ip, jumped, hcore⟩ := core_step running
  obtain ⟨-, hstate⟩ := executeCurrent_of_allowed hword hi rfl
  rw [hcore, hstate]
  have hvalue := Alu.Results.peek_carriedOut
    ((Instruction.getc.change word.field { m with core.ir := word }).alu) m.core.alu r
  refine hvalue.trans ?_
  cases hready : (Device.poll m.device).1 with
  | false =>
    simp only [Instruction.change, hready]
    rfl
  | true =>
    simp only [Instruction.change, hready, if_true, true_and]
    exact Alu.Results.value_of_writes_eq rfl m.core.alu r

end Running

/-- The next step makes no calls and leaves the device alone, or it carries out an instruction. -/
lemma nextCalls_cases (m : Machine δ) :
    (m.nextCalls = [] ∧ (step m).state.device = m.device) ∨
      ∃ word i, m.halted = false ∧ m.nextWord = some word ∧
        Instruction.ofOpcode? word.opcode = some i := by
  cases running : m.halted with
  | true => exact .inl ⟨nextCalls_of_halted running, by rw [step_of_halted running]⟩
  | false =>
    cases hi : m.nextInstruction with
    | none => exact .inl (nextCalls_of_nextInstruction_eq_none running hi)
    | some i =>
      obtain ⟨word, v, hword, hop, -⟩ := executeCurrent_of_nextInstruction hi
      exact .inr ⟨word, i, rfl, hword, hop⟩

/-- Every step makes the calls that it lists, and the device is left as they leave it. -/
lemma makes_step (m : Machine δ) : Device.Makes m.device m.nextCalls (step m).state.device := by
  rcases m.nextCalls_cases with ⟨hcalls, hdevice⟩ | ⟨word, i, running, hword, hi⟩
  · rw [hcalls, hdevice]
    rfl
  · obtain ⟨hcalls, hmakes⟩ := nextCalls_of_nextWord running hword hi
    rw [hcalls]
    exact hmakes

lemma asksFirst_nextCalls (m : Machine δ) : AsksFirst m.nextCalls := by
  rcases m.nextCalls_cases with ⟨hcalls, -⟩ | ⟨word, i, running, hword, hi⟩
  · rw [hcalls]
    exact asksFirst_of_forall_ne (by simp)
  · rw [(nextCalls_of_nextWord running hword hi).1]
    exact i.asksFirst_calls word.field m

/-- A machine deals with its device as the protocol has it, as far as the next step goes. -/
structure KeepsProtocol (m : Machine δ) : Prop where
  /-- The calls are real: the device gives the answers and is left as the calls leave it. -/
  made : Device.Makes m.device m.nextCalls (step m).state.device
  asked : AsksFirst m.nextCalls
  /-- To read a byte the device is asked once. If there is one it is taken, once, and put into the
  register; if there is none then nothing else is called. -/
  getc : ∀ {word : InstructionWord}, m.halted = false → m.nextWord = some word →
    Instruction.ofOpcode? word.opcode = some .getc →
    m.nextCalls = [.poll false] ∨
      ∃ b, m.nextCalls = [.poll true, .get b] ∧
        (step m).state.core.alu.peek word.field.rx
          = if word.field.rx = 0 then 0 else b.setWidth 64
  /-- To write a byte the device is given it, once. -/
  putc : ∀ {word : InstructionWord} {byte : Operand}, m.halted = false → m.nextWord = some word →
    Instruction.ofOpcode? word.opcode = some (.putc byte) →
    m.nextCalls = [.put ((byte.eval (·.ux) word.field m.core.alu).setWidth 8)]
  /-- Other instructions do not call the device. -/
  other : ∀ {i : Instruction}, m.nextInstruction = some i → i ≠ .getc →
    (∀ byte, i ≠ .putc byte) → m.nextCalls = []
  /-- Neither do steps that end in a fault, -/
  faulting : m.pendingFault? ≠ none → m.nextCalls = []
  /-- nor machines that have halted. -/
  halted : m.halted = true → m.nextCalls = []

/-- An instruction that reads or writes a byte never faults. -/
lemma nextCalls_of_pendingFault? {m : Machine δ} (h : m.pendingFault? ≠ none) :
    m.nextCalls = [] := by
  rcases m.nextCalls_cases with ⟨hcalls, -⟩ | ⟨word, i, running, hword, hi⟩
  · exact hcalls
  rw [pendingFault?_of_legal hword hi] at h
  rw [(nextCalls_of_nextWord running hword hi).1]
  apply Instruction.calls_eq_nil
  · rintro rfl
    exact h rfl
  · rintro byte rfl
    exact h rfl

/-- Every machine keeps the protocol in every step. -/
lemma keepsProtocol (m : Machine δ) : m.KeepsProtocol where
  made := m.makes_step
  asked := m.asksFirst_nextCalls
  getc := by
    intro word running hword hi
    rw [peek_step_getc running hword hi, (nextCalls_of_nextWord running hword hi).1]
    cases hready : (Device.poll m.device).1 with
    | false => exact .inl (if_neg (by rw [hready]; exact Bool.false_ne_true))
    | true => exact .inr ⟨_, if_pos hready, if_pos ⟨rfl, rfl⟩⟩
  putc := fun running hword hi => (nextCalls_of_nextWord running hword hi).1
  other := by
    intro i hi hgetc hputc
    rcases m.nextCalls_cases with ⟨hcalls, -⟩ | ⟨word, i', running, hword, hop⟩
    · exact hcalls
    have hsame : i' = i := by
      rw [nextInstruction, hword, Option.bind_some, hop] at hi
      exact Option.some.inj hi
    subst hsame
    rw [(nextCalls_of_nextWord running hword hop).1]
    exact Instruction.calls_eq_nil word.field m hgetc hputc
  faulting := nextCalls_of_pendingFault?
  halted := nextCalls_of_halted

/-! ### Runs -/

/-- The device calls of the next `n` steps. -/
def callsOfSteps (m : Machine δ) (n : Nat) : List DeviceEvent :=
  (List.range n).flatMap fun k => (m.afterSteps k).nextCalls

lemma afterSteps_add (m : Machine δ) (a b : Nat) :
    m.afterSteps (a + b) = (m.afterSteps a).afterSteps b := by
  rw [afterSteps, Nat.add_comm, Function.iterate_add_apply]
  rfl

lemma callsOfSteps_add (m : Machine δ) (a b : Nat) :
    m.callsOfSteps (a + b) = m.callsOfSteps a ++ (m.afterSteps a).callsOfSteps b := by
  simp only [callsOfSteps, List.range_add, List.flatMap_append, List.flatMap_map, afterSteps_add]

lemma callsOfSteps_one (m : Machine δ) : m.callsOfSteps 1 = m.nextCalls := List.append_nil _

/-- What is done comes down to a number of steps, as far as the machine and its device are
concerned. -/
def TakesSteps (m : Machine δ) (done : List Activity) (m' : Machine δ) : Prop :=
  ∃ n, m' = m.afterSteps n ∧ deviceCalls done = m.callsOfSteps n

lemma composes_takesSteps : Composes (TakesSteps (δ := δ)) where
  refl m := ⟨0, rfl, rfl⟩
  trans := by
    rintro m _ _ done more ⟨a, rfl, hdone⟩ ⟨b, rfl, hmore⟩
    refine ⟨a + b, (m.afterSteps_add a b).symm, ?_⟩
    rw [deviceCalls_append, hdone, hmore, callsOfSteps_add]

lemma governs_takesSteps_step : Governs TakesSteps (step (δ := δ)) :=
  fun m => ⟨1, rfl, m.callsOfSteps_one.symm⟩

/-- What steps do, all calls that are made of steps do. -/
lemma takesSteps_of_perform? {call : Call δ} (hcall : call.IsStepping) {patience : Nat}
    {m : Machine δ} {o : Outcome (Machine δ) Answer} (ho : call.perform? patience m = some o) :
    TakesSteps m o.activity o.state := by
  cases call with
  | step =>
    obtain rfl := Option.some.inj ho
    exact governs_takesSteps_step m
  | runFor limit? =>
    cases limit? with
    | some limit =>
      obtain rfl := Option.some.inj ho
      exact composes_takesSteps.runFor governs_takesSteps_step limit m
    | none =>
      obtain ⟨run, hrun, rfl⟩ := Option.map_eq_some_iff.mp ho
      exact composes_takesSteps.runToStop? governs_takesSteps_step hrun
  | run =>
    obtain ⟨run, hrun, rfl⟩ := Option.map_eq_some_iff.mp ho
    exact composes_takesSteps.runToHalt? governs_takesSteps_step hrun
  | _ => exact hcall.elim

/-- What a host learns of the device calls are those of the steps that are taken. -/
lemma steps_of_serve? {patience : Nat} {calls : List (Call δ)} {o last : Observed (Machine δ) ε}
    {replies : List (Reply δ ε)} (hcalls : ∀ call ∈ calls, call.IsStepping)
    (h : o.serve? patience (calls.map .call) = some (replies, last)) :
    ∃ n, last.state = o.state.afterSteps n ∧
      replies.flatMap (·.deviceCalls) = o.state.callsOfSteps n := by
  induction calls generalizing o replies with
  | nil =>
    obtain ⟨rfl, rfl⟩ := Prod.mk.inj (Option.some.inj h)
    exact ⟨0, rfl, rfl⟩
  | cons call calls ih =>
    rw [List.forall_mem_cons] at hcalls
    obtain ⟨outcome, rest, houtcome, hrest, rfl⟩ := Observed.serve?_call_eq_some_iff.mp h
    obtain ⟨a, hstate, hdone⟩ := takesSteps_of_perform? hcalls.1 houtcome
    obtain ⟨b, hlast, hmore⟩ := ih hcalls.2 hrest
    refine ⟨a + b, ?_, ?_⟩
    · rw [afterSteps_add, ← hstate]
      exact hlast
    · rw [callsOfSteps_add, ← hstate, List.flatMap_cons, hmore, ← hdone]
      rfl

/-- The device is left as the calls of the steps leave it. -/
lemma makes_afterSteps (m : Machine δ) (n : Nat) :
    Device.Makes m.device (m.callsOfSteps n) (m.afterSteps n).device := by
  induction n with
  | zero => rfl
  | succ n ih =>
    rw [callsOfSteps_add, afterSteps_add, callsOfSteps_one]
    exact ih.append (m.afterSteps n).makes_step

/-- A machine keeps the protocol in every step. Whatever steps and runs a host asks it for, all that
the device is called for are the calls of single steps, one step after the other, and the device is
left as these calls leave it. -/
theorem obeys_device_protocol :
    (∀ m : Machine δ, m.KeepsProtocol) ∧
      ∀ {patience : Nat} {calls : List (Call δ)} {o last : Observed (Machine δ) ε}
        {replies : List (Reply δ ε)}, (∀ call ∈ calls, call.IsStepping) →
        o.serve? patience (calls.map .call) = some (replies, last) →
        Device.Makes o.state.device (replies.flatMap (·.deviceCalls)) last.state.device ∧
          ∃ n, last.state = o.state.afterSteps n ∧
            replies.flatMap (·.deviceCalls)
              = (List.range n).flatMap fun k => (o.state.afterSteps k).nextCalls := by
  refine ⟨keepsProtocol, ?_⟩
  intro patience calls o last replies hcalls h
  obtain ⟨n, hlast, hmade⟩ := steps_of_serve? hcalls h
  refine ⟨?_, n, hlast, hmade⟩
  rw [hlast, hmade]
  exact o.state.makes_afterSteps n

end Machine

end LectureMachine
