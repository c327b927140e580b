import LectureMachine.Proofs.Machine.Fault
import LectureMachine.Proofs.Instruction.Jump
import LectureMachine.Machine.Run

/-!
# Blocked machines

A machine is blocked by an instruction that asks for input and finds none, and it is to be blocked
by nothing else. But what a blocked machine remembers is only that it is blocked, and not why: if
another program is loaded over the instruction that waits, the new instruction is carried out, the
machine is still taken for blocked and does not go on, and the instruction is carried out once more.
If the new instruction is a jump, the mark of the jump is left over as well. Such a machine is
stale. It is shown that a step goes wrong just if a stale machine takes it.
-/

namespace LectureMachine

open Transition

/-- Only one opcode reads input. -/
lemma Instruction.ofOpcode?_eq_getc_iff {opcode : Byte} :
    ofOpcode? opcode = some .getc ↔ opcode = 0x60 := by
  constructor
  · intro h
    have honly : ∀ entry ∈ opcodes, entry.2 = .getc → entry.1 = 0x60 := by decide
    exact BitVec.eq_of_toNat_eq (honly _ (mem_opcodes h) rfl)
  · rintro rfl
    rw [ofOpcode?_eq_lookup]
    decide

namespace Machine

variable {δ : Type} [Device δ]

/-- The next instruction asks for input, and there is none. -/
def Starved (m : Machine δ) : Prop :=
  m.nextInstruction = some .getc ∧ (Device.poll m.device).1 = false

/-- The machine has asked for input in vain; `word` is the instruction that did. -/
def waiting (m : Machine δ) (word : InstructionWord) : Machine δ :=
  { m with core.ir := word, device := (Device.poll m.device).2, blocked := true }

/-! ### Waiting for input -/

/-- A starved machine fetches the instruction and asks the device, and nothing else happens. -/
lemma executeCurrent_of_starved {m : Machine δ} (h : m.Starved) :
    ∃ word v, m.nextWord = some word ∧ word.opcode = 0x60 ∧ executeCurrent m =
      ⟨.ok (), m.waiting word, [.memory (.read m.core.ip 4 v), .device (.poll false)]⟩ := by
  obtain ⟨hi, hready⟩ := h
  obtain ⟨word, v, hword, hop, he⟩ := executeCurrent_of_nextInstruction hi
  refine ⟨word, v, hword, Instruction.ofOpcode?_eq_getc_iff.mp hop, ?_⟩
  rw [he, Instruction.execute_getc_of_not_ready (m := { m with core.ir := word }) hready]
  rfl

lemma step_of_starved {m : Machine δ} (running : m.halted = false) (h : m.Starved) :
    ∃ word v, m.nextWord = some word ∧ word.opcode = 0x60 ∧ step m =
      ⟨.ok .blocked, m.waiting word,
        [.memory (.read m.core.ip 4 v), .device (.poll false), .machine .block]⟩ := by
  obtain ⟨word, v, hword, hop, he⟩ := executeCurrent_of_starved h
  refine ⟨word, v, hword, hop, ?_⟩
  rw [step_of_ok running he, advance_of_blocked (m := m.waiting word) running rfl]
  rfl

/-- Input that can be read ends the waiting. -/
lemma executeCurrent_of_getc {m : Machine δ} (hi : m.nextInstruction = some .getc)
    (h : ¬ m.Starved) :
    (executeCurrent m).state.blocked = false ∧
      .device (.poll false) ∉ (executeCurrent m).activity := by
  have hready : (Device.poll m.device).1 = true := by
    simpa [Starved, hi] using h
  obtain ⟨word, v, -, -, he⟩ := executeCurrent_of_nextInstruction hi
  rw [he, Outcome.state_after, Outcome.activity_after,
    Instruction.execute_getc_of_ready (m := { m with core.ir := word }) hready]
  exact ⟨rfl, by simp⟩

/-- All other instructions leave a machine as blocked as it was, and ask for nothing. -/
lemma executeCurrent_of_ne_getc {m : Machine δ} (h : m.nextInstruction ≠ some .getc) :
    (executeCurrent m).state.blocked = m.blocked ∧
      .device (.poll false) ∉ (executeCurrent m).activity := by
  cases hi : m.nextInstruction with
  | none =>
    obtain ⟨f, ir, done, he, hdone⟩ := executeCurrent_of_nextInstruction_eq_none hi
    rw [he]
    exact ⟨rfl, hdone _⟩
  | some i =>
    obtain ⟨word, v, -, -, he⟩ := executeCurrent_of_nextInstruction hi
    rw [he, Outcome.state_after, Outcome.activity_after]
    rcases i.execute_cases word.field with ⟨code, rfl⟩ | rfl | ⟨byte, rfl⟩ | ⟨t, ht, hi'⟩
    · rw [Instruction.execute_halt_apply]
      exact ⟨rfl, by cases code <;> simp [Operand.reads]⟩
    · exact absurd hi h
    · rw [Instruction.execute_putc_apply]
      exact ⟨rfl, by cases byte <;> simp [Operand.reads]⟩
    · rw [hi', onCore_apply]
      refine ⟨rfl, fun hmem => ?_⟩
      rcases List.mem_append.mp hmem with hread | hcore
      · simp at hread
      · exact ht.emits _ _ hcore

/-- A machine that is blocked at most by the instruction it tries again is not blocked when this
instruction finds input, nor by another instruction. -/
lemma blocked_executeCurrent {m : Machine δ} (hs : ¬ m.Starved)
    (hwaits : m.blocked = true → m.nextInstruction = some .getc) :
    (executeCurrent m).state.blocked = false := by
  by_cases hi : m.nextInstruction = some .getc
  · exact (executeCurrent_of_getc hi hs).1
  · rw [(executeCurrent_of_ne_getc hi).1]
    exact Bool.of_not_eq_true fun hb => hi (hwaits hb)

/-! ### Going on -/

/-- Where the next instruction jumps to, if it makes a jump. -/
def jumpTarget? (m : Machine δ) : Option Word :=
  m.nextWord.bind fun word =>
    (Instruction.ofOpcode? word.opcode).bind fun i => i.target? word.field m.core

lemma place_executeCurrent (m : Machine δ) :
    (executeCurrent m).state.core.place = m.core.placeAfter m.jumpTarget? := by
  cases hi : m.nextInstruction with
  | some i =>
    obtain ⟨word, v, hword, hop, he⟩ := executeCurrent_of_nextInstruction hi
    rw [he, Outcome.state_after, Instruction.place_execute, jumpTarget?, hword, Option.bind_some,
      hop, Option.bind_some]
    cases i <;> rfl
  | none =>
    obtain ⟨f, ir, done, he, -⟩ := executeCurrent_of_nextInstruction_eq_none hi
    rw [he, jumpTarget?]
    cases hword : m.nextWord with
    | none => rfl
    | some word =>
      have hop : Instruction.ofOpcode? word.opcode = none := by
        simpa [nextInstruction, hword] using hi
      rw [Option.bind_some, hop]
      rfl

/-! ### What a step can do -/

/-- The next instruction neither faults nor halts the machine. -/
def Completes (m : Machine δ) : Prop :=
  (executeCurrent m).result = .ok () ∧ (executeCurrent m).state.halted = false

lemma step_of_not_completes {m : Machine δ} (running : m.halted = false) (h : ¬ m.Completes) :
    (step m).result = .ok .halted ∧ (step m).state.halted = true := by
  rw [Completes] at h
  rcases he : executeCurrent m with ⟨f | ⟨⟩, m', done⟩
  · rw [step_of_error running he]
    exact ⟨rfl, rfl⟩
  · rw [he] at h
    have hh : m'.halted = true := Bool.of_not_eq_false fun hfalse => h ⟨rfl, hfalse⟩
    rw [step_of_ok running he, advance_of_halted hh]
    exact ⟨rfl, hh⟩

lemma step_of_completes {m : Machine δ} (running : m.halted = false) (h : m.Completes) :
    step m = (advance (executeCurrent m).state).after (executeCurrent m).activity := by
  obtain ⟨hok, -⟩ := h
  rcases he : executeCurrent m with ⟨result, m', done⟩
  rw [he] at hok
  obtain rfl : result = .ok () := hok
  exact step_of_ok running he

lemma halted_step_eq_false_iff {m : Machine δ} (running : m.halted = false) :
    (step m).state.halted = false ↔ m.Completes := by
  constructor
  · intro h
    by_contra hc
    rw [(step_of_not_completes running hc).2] at h
    cases h
  · intro hc
    obtain ⟨status, core, steps, event, hadvance⟩ := advance_shape (executeCurrent m).state
    rw [step_of_completes running hc, hadvance]
    exact hc.2

/-- An instruction that completes is held up if the machine is taken for blocked. -/
lemma step_of_held_up {m : Machine δ} (running : m.halted = false) (h : m.Completes)
    (hb : (executeCurrent m).state.blocked = true) :
    step m = ⟨.ok .blocked, (executeCurrent m).state,
      (executeCurrent m).activity ++ [.machine .block]⟩ := by
  rw [step_of_completes running h, advance_of_blocked h.2 hb]
  rfl

lemma step_of_goes_on {m : Machine δ} (running : m.halted = false) (h : m.Completes)
    (hb : (executeCurrent m).state.blocked = false) :
    (step m).result = .ok .running ∧ (step m).state = (executeCurrent m).state.advanced := by
  rw [step_of_completes running h, advance_of_running h.2 hb]
  exact ⟨rfl, rfl⟩

/-- A machine that has not halted, is not blocked and does not wait for input halts or goes on. -/
lemma step_of_not_starved {m : Machine δ} (running : m.halted = false) (hb : m.blocked = false)
    (hs : ¬ m.Starved) :
    ((step m).result = .ok .halted ∧ (step m).state.halted = true) ∨
      ((step m).result = .ok .running ∧ (step m).state.halted = false ∧
        (step m).state.blocked = false) := by
  by_cases hc : m.Completes
  · have hgo := blocked_executeCurrent hs fun hblocked => by simp [hb] at hblocked
    obtain ⟨hr, hstate⟩ := step_of_goes_on running hc hgo
    rw [hstate]
    exact .inr ⟨hr, hc.2, hgo⟩
  · exact .inl (step_of_not_completes running hc)

/-- An instruction that completes and is not held up goes to the target of its jump, or to the next
instruction unless the mark of an earlier jump is left over. -/
lemma advanced_executeCurrent (m : Machine δ) :
    (executeCurrent m).state.advanced.core.place =
        (m.jumpTarget?.getD (if m.core.jumped then m.core.ip else m.core.ip + 4), false) ∧
      (executeCurrent m).state.advanced.steps = m.steps + 1 := by
  have hsteps := keeps_executeCurrent (g := Machine.steps) (fun _ _ => rfl) (fun _ _ => rfl)
    (fun _ _ _ => rfl) (fun _ _ => rfl) m
  exact ⟨Core.place_incrementIp m.place_executeCurrent, congrArg (· + 1) hsteps⟩

/-! ### Honest steps -/

/-- An instruction that asks for input was carried out, and the device had none. -/
def FoundNoInput (o : Outcome (Machine δ) Status) : Prop :=
  o.state.core.ir.opcode = 0x60 ∧ .device (.poll false) ∈ o.activity

/-- The next step is blocked only for want of input. If it finds input, or needs none, and does not
halt, then it completes the instruction and goes on. -/
structure StepsHonestly (m : Machine δ) : Prop where
  blocked : (step m).result = .ok .blocked → FoundNoInput (step m)
  goes_on : (step m).state.halted = false → ¬ FoundNoInput (step m) →
    (step m).result = .ok .running ∧
      (step m).state.core.ip = m.jumpTarget?.getD (m.core.ip + 4) ∧
      (step m).state.core.jumped = false ∧
      (step m).state.steps = m.steps + 1

/-- The next instruction is to go on, but what an earlier one has left makes the step go wrong: the
machine is taken for blocked although the instruction asks for no input, or it is taken to have
jumped although the instruction makes no jump. -/
structure IsStale (m : Machine δ) : Prop where
  running : m.halted = false
  completes : m.Completes
  not_starved : ¬ m.Starved
  left_over : (m.blocked = true ∧ m.nextInstruction ≠ some .getc) ∨
    (m.core.jumped = true ∧ m.jumpTarget? = none)

lemma foundNoInput_of_starved {m : Machine δ} (running : m.halted = false) (h : m.Starved) :
    FoundNoInput (step m) := by
  obtain ⟨word, v, hword, hop, hstep⟩ := step_of_starved running h
  rw [hstep]
  exact ⟨hop, by simp⟩

/-- Only a starved machine can be seen to find no input. -/
lemma starved_of_foundNoInput {m : Machine δ} (running : m.halted = false) (h : m.Completes)
    (hfound : FoundNoInput (step m)) : m.Starved := by
  by_contra hs
  have hnot : .device (.poll false) ∉ (executeCurrent m).activity := by
    by_cases hi : m.nextInstruction = some .getc
    · exact (executeCurrent_of_getc hi hs).2
    · exact (executeCurrent_of_ne_getc hi).2
  obtain ⟨-, hasked⟩ := hfound
  obtain ⟨status, core, steps, event, hadvance⟩ := advance_shape (executeCurrent m).state
  rw [step_of_completes running h, Outcome.activity_after, hadvance] at hasked
  rcases List.mem_append.mp hasked with hmem | hmem
  · exact hnot hmem
  · simp at hmem

lemma stepsHonestly_of_halts {m : Machine δ} (hr : (step m).result = .ok .halted)
    (hh : (step m).state.halted = true) : m.StepsHonestly := by
  constructor
  · intro hblocked
    rw [hr] at hblocked
    cases hblocked
  · intro hrunning
    rw [hh] at hrunning
    cases hrunning

omit [Device δ] in
lemma getD_jumpTarget? {m : Machine δ} (h : ¬ (m.core.jumped = true ∧ m.jumpTarget? = none)) :
    m.jumpTarget?.getD (if m.core.jumped then m.core.ip else m.core.ip + 4)
      = m.jumpTarget?.getD (m.core.ip + 4) := by
  cases htarget : m.jumpTarget? with
  | some target => rfl
  | none =>
    have hjumped : m.core.jumped = false := Bool.of_not_eq_true fun hj => h ⟨hj, htarget⟩
    rw [hjumped]
    rfl

/-- What was left over by earlier steps is all that can make a step go wrong. -/
lemma stepsHonestly_of_not_isStale {m : Machine δ} (h : ¬ m.IsStale) : m.StepsHonestly := by
  cases running : m.halted with
  | true =>
    exact stepsHonestly_of_halts (by rw [step_of_halted running])
      (by rw [step_of_halted running, running])
  | false =>
    by_cases hc : m.Completes
    swap
    · obtain ⟨hr, hh⟩ := step_of_not_completes running hc
      exact stepsHonestly_of_halts hr hh
    by_cases hs : m.Starved
    · have hfound := foundNoInput_of_starved running hs
      exact ⟨fun _ => hfound, fun _ hnot => absurd hfound hnot⟩
    have hfresh := fun hleft => h ⟨running, hc, hs, hleft⟩
    have hb : (executeCurrent m).state.blocked = false :=
      blocked_executeCurrent hs fun hb => by_contra fun hne => hfresh (.inl ⟨hb, hne⟩)
    obtain ⟨hr, hstate⟩ := step_of_goes_on running hc hb
    obtain ⟨hplace, hsteps⟩ := m.advanced_executeCurrent
    have htarget := getD_jumpTarget? fun hleft => hfresh (.inr hleft)
    obtain ⟨hip, hj⟩ := Prod.mk.inj hplace
    constructor
    · intro hblocked
      rw [hr] at hblocked
      cases hblocked
    · intro _ _
      rw [hstate]
      exact ⟨hr, hip.trans htarget, hj, hsteps⟩

lemma not_stepsHonestly_of_isStale {m : Machine δ} (h : m.IsStale) : ¬ m.StepsHonestly := by
  rintro ⟨hblocked, hgoes⟩
  obtain ⟨running, hc, hs, hleft⟩ := h
  have hnot : ¬ FoundNoInput (step m) := by
    intro hfound
    exact hs (starved_of_foundNoInput running hc hfound)
  cases hb : (executeCurrent m).state.blocked with
  | true => exact hnot (hblocked (by rw [step_of_held_up running hc hb]))
  | false =>
    obtain ⟨-, hstate⟩ := step_of_goes_on running hc hb
    obtain ⟨hplace, -⟩ := m.advanced_executeCurrent
    rw [hstate] at hgoes
    obtain ⟨-, hip, -, -⟩ := hgoes hc.2 hnot
    rcases hleft with ⟨hblocked, hne⟩ | ⟨hjumped, htarget⟩
    · rw [(executeCurrent_of_ne_getc hne).1, hblocked] at hb
      cases hb
    · have hstay := (Prod.mk.inj hplace).1
      rw [htarget, hjumped] at hstay
      rw [hstay, htarget] at hip
      simp at hip

/-! ### Histories -/

/-- The machines reached from a new one by calls, while input arrives at any time, in whatever way
this changes the device. `mayLoad` says into which machines a program may be loaded. -/
inductive Reached (mayLoad : Machine δ → Prop) : Machine δ → Prop
  | new (device : δ) : Reached mayLoad (new device)
  | arrive {m : Machine δ} (h : Reached mayLoad m) (input : δ → δ) :
    Reached mayLoad { m with device := input m.device }
  | load {m : Machine δ} (h : Reached mayLoad m) (hm : mayLoad m) (program : List InstructionWord) :
    Reached mayLoad (loadProgram program m).state
  | step {m : Machine δ} (h : Reached mayLoad m) : Reached mayLoad (step m).state
  | runFor {m : Machine δ} (h : Reached mayLoad m) (limit : Nat) :
    Reached mayLoad (runFor limit m).state
  | reset {m : Machine δ} (h : Reached mayLoad m) : Reached mayLoad (reset m).state

/-- Unless the machine has halted, nothing is left of a jump, and if it is blocked, then by the
instruction that it will try again. -/
def IsFresh (m : Machine δ) : Prop :=
  m.halted = false → m.core.jumped = false ∧ (m.blocked = true → m.nextInstruction = some .getc)

lemma IsFresh.not_isStale {m : Machine δ} (h : m.IsFresh) : ¬ m.IsStale := by
  rintro ⟨running, -, -, ⟨hb, hne⟩ | ⟨hj, -⟩⟩
  · exact hne ((h running).2 hb)
  · rw [(h running).1] at hj
    cases hj

lemma IsFresh.step {m : Machine δ} (h : m.IsFresh) : (step m).state.IsFresh := by
  cases running : m.halted with
  | true =>
    rw [step_of_halted running]
    exact h
  | false =>
    obtain ⟨hjumped, hwaits⟩ := h running
    by_cases hc : m.Completes
    swap
    · intro hrunning
      rw [(step_of_not_completes running hc).2] at hrunning
      cases hrunning
    by_cases hs : m.Starved
    · obtain ⟨word, v, -, -, hstep⟩ := step_of_starved running hs
      rw [hstep]
      exact fun _ => ⟨hjumped, fun _ => hs.1⟩
    · have hb := blocked_executeCurrent hs hwaits
      obtain ⟨-, hstate⟩ := step_of_goes_on running hc hb
      obtain ⟨hplace, -⟩ := m.advanced_executeCurrent
      rw [hstate]
      refine fun _ => ⟨(Prod.mk.inj hplace).2, fun hblocked => ?_⟩
      cases hb.symm.trans hblocked

/-- A fresh machine goes on if its next instruction asks for no input. -/
lemma IsFresh.goes_on {m : Machine δ} (h : m.IsFresh) (running : m.halted = false)
    (hc : m.Completes) (hne : m.nextInstruction ≠ some .getc) :
    (Machine.step m).result = .ok .running ∧
      (Machine.step m).state.core.ip = m.jumpTarget?.getD (m.core.ip + 4) := by
  have hhonest := stepsHonestly_of_not_isStale h.not_isStale
  have hgoes := (halted_step_eq_false_iff running).mpr hc
  obtain ⟨hr, hip, -, -⟩ := hhonest.goes_on hgoes fun hfound =>
    hne (starved_of_foundNoInput running hc hfound).1
  exact ⟨hr, hip⟩

/-- A run keeps what its steps keep. -/
lemma runFor_preserves {p : Machine δ → Prop} (hstep : ∀ m, p m → p (step m).state) (limit : Nat)
    {m : Machine δ} (h : p m) : p (runFor limit m).state := by
  induction limit generalizing m with
  | zero => exact h
  | succ limit ih =>
    have hs := hstep m h
    rw [runFor_succ]
    rcases hm : Machine.step m with ⟨f | status, m', done⟩ <;> rw [hm] at hs
    · exact hs
    · cases status with
      | running => exact ih hs
      | blocked => exact hs
      | halted => exact hs

/-- Machines stay fresh as long as no program is loaded into a machine that waits for input. -/
lemma Reached.isFresh {mayLoad : Machine δ → Prop} (hload : ∀ m, mayLoad m → m.status ≠ .blocked)
    {m : Machine δ} (h : Reached mayLoad m) : m.IsFresh := by
  induction h with
  | new device => exact fun _ => ⟨rfl, fun hb => nomatch hb⟩
  | arrive _ input ih => exact ih
  | @load m _ hm program ih =>
    intro running
    refine ⟨(ih running).1, fun hb => absurd ?_ (hload m hm)⟩
    have hhalted : m.halted = false := running
    have hblocked : m.blocked = true := hb
    rw [status, hhalted, hblocked]
    rfl
  | step _ ih => exact ih.step
  | runFor _ limit ih => exact runFor_preserves (fun _ => IsFresh.step) limit ih
  | reset _ _ => exact fun _ => ⟨rfl, fun hb => nomatch hb⟩

/-- A step is blocked just for want of input, and else goes on, unless what earlier steps have left
over makes the machine stale. No machine is ever stale if no program is loaded into one that waits
for input. -/
theorem stepsHonestly_iff_not_isStale {mayLoad : Machine δ → Prop} {m : Machine δ}
    (h : Reached mayLoad m) :
    (m.StepsHonestly ↔ ¬ m.IsStale) ∧
      ((∀ m, mayLoad m → m.status ≠ .blocked) → m.StepsHonestly) := by
  refine ⟨⟨?_, stepsHonestly_of_not_isStale⟩, ?_⟩
  · intro hhonest hstale
    exact not_stepsHonestly_of_isStale hstale hhonest
  · intro hload
    apply stepsHonestly_of_not_isStale
    exact (h.isFresh hload).not_isStale

/-- A machine that has asked for input in vain. -/
def thirsty : Machine Buffered := (step (loadProgram [0x60010000] (new {})).state).state

/-- The same machine with an instruction that does nothing loaded over the one that waits. -/
def overwritten : Machine Buffered := (loadProgram [0xFF000000] thirsty).state

lemma reached_thirsty {mayLoad : Machine Buffered → Prop} (h : mayLoad (new {})) :
    Reached mayLoad thirsty := by
  have hload := (Reached.new ({} : Buffered)).load h [0x60010000]
  rw [thirsty]
  exact hload.step

lemma thirsty_eq : thirsty = (loadProgram [0x60010000] (new {})).state.waiting 0x60010000 := by
  have hword : (loadProgram [0x60010000] (new ({} : Buffered))).state.nextWord
      = some 0x60010000 :=
    nextWord_loadProgram (i := 0) (by decide) (by decide) rfl
  have hstarved : (loadProgram [0x60010000] (new ({} : Buffered))).state.Starved := by
    refine ⟨?_, rfl⟩
    rw [nextInstruction, hword, Option.bind_some, Instruction.ofOpcode?_eq_getc_iff]
    decide
  obtain ⟨word, v, hw, -, hstep⟩ := step_of_starved rfl hstarved
  obtain rfl : word = 0x60010000 := Option.some.inj (hw.symm.trans hword)
  rw [thirsty, hstep]

/-- The machine that waits is blocked and takes honest steps. -/
theorem stepsHonestly_thirsty :
    Reached (fun m => m.status ≠ .blocked) thirsty ∧ thirsty.blocked = true ∧
      thirsty.StepsHonestly ∧ ¬ thirsty.IsStale := by
  have hreached : Reached (fun m => m.status ≠ .blocked) thirsty := reached_thirsty (by decide)
  obtain ⟨hiff, hcareful⟩ := stepsHonestly_iff_not_isStale hreached
  have hhonest := hcareful fun _ h => h
  refine ⟨hreached, ?_, hhonest, hiff.mp hhonest⟩
  rw [thirsty_eq]
  rfl

/-- An instruction that does nothing is enough to make a blocked machine stale. -/
lemma isStale_of_nop {m : Machine δ} (running : m.halted = false) (hblocked : m.blocked = true)
    (h : m.nextInstruction = some .nop) : m.IsStale := by
  obtain ⟨word, v, -, -, he⟩ := executeCurrent_of_nextInstruction h
  rw [Instruction.execute_nop_apply] at he
  have hne : m.nextInstruction ≠ some .getc := by
    rw [h]
    decide
  refine ⟨running, ?_, fun hs => hne hs.1, .inl ⟨hblocked, hne⟩⟩
  rw [Completes, he]
  exact ⟨rfl, running⟩

/-- The machine that waited does not. -/
theorem not_stepsHonestly_overwritten :
    Reached (fun _ => True) overwritten ∧ ¬ overwritten.StepsHonestly := by
  have hreached : Reached (fun _ => True) overwritten := by
    rw [overwritten]
    exact (reached_thirsty trivial).load trivial [0xFF000000]
  have hword : overwritten.nextWord = some 0xFF000000 := by
    rw [overwritten, thirsty_eq]
    exact nextWord_loadProgram (i := 0) (by decide) (by decide) rfl
  have hop : Instruction.ofOpcode? (InstructionWord.opcode 0xFF000000) = some .nop := by
    rw [Instruction.ofOpcode?_eq_lookup]
    decide
  have hstate : overwritten.halted = false ∧ overwritten.blocked = true := by
    rw [overwritten, thirsty_eq]
    exact ⟨rfl, rfl⟩
  have hnext : overwritten.nextInstruction = some .nop := by
    rw [nextInstruction, hword, Option.bind_some, hop]
  exact ⟨hreached, not_stepsHonestly_of_isStale (isStale_of_nop hstate.1 hstate.2 hnext)⟩

end Machine

end LectureMachine
