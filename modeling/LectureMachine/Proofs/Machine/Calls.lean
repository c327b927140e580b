import LectureMachine.Proofs.Machine.Limit
import LectureMachine.Observer

/-!
# Calls

A host makes calls to a machine and attaches observers to it, in any order. Of every call it learns
the answer, the machine as it then is, and what the device was asked, and the observers write their
replies. A call is made of steps, of single operations and of what the host does itself, one after
the other; what holds of all these, and of doing one thing after the other, holds of every call.
-/

namespace LectureMachine

variable {σ δ ε α β : Type}

/-- The same outcome, with another answer. -/
def Outcome.map (f : α → β) (o : Outcome σ α) : Outcome σ β := ⟨o.result.map f, o.state, o.activity⟩

@[simp] lemma Outcome.state_map (f : α → β) (o : Outcome σ α) : (o.map f).state = o.state := rfl

@[simp] lemma Outcome.activity_map (f : α → β) (o : Outcome σ α) :
    (o.map f).activity = o.activity := rfl

/-! ### Calls -/

/-- What a call is answered with, unless there is a fault. -/
inductive Answer
  | done
  | status (status : Status)
  | stop (stop : Stop)
  | exitCode (code : Byte)
  deriving DecidableEq, Repr

/-- What a host can do with a machine whose device has the states `δ`. -/
inductive Call (δ : Type)
  | load (program : List InstructionWord)
  /-- Input arrives, in whatever way this changes the device. -/
  | arrive (input : δ → δ)
  | step
  /-- Takes steps until the machine halts or is blocked, up to the limit if there is one. -/
  | runFor (limit : Option Nat)
  /-- Takes steps until the machine halts. -/
  | run
  /-- Carries out an operation that is not fetched from memory. -/
  | execute (i : Instruction) (field : OperandField)
  /-- The host puts values of its own into the machine. -/
  | assign (change : Machine δ → Machine δ)
  | reset

/-- Does what is asked. A run without a limit is given up after `patience` steps. -/
def Call.perform? [Device δ] (patience : Nat) :
    Call δ → Machine δ → Option (Outcome (Machine δ) Answer)
  | .load program, m => some ((Machine.loadProgram program m).map fun _ => .done)
  | .arrive input, m => some ⟨.ok .done, { m with device := input m.device }, []⟩
  | .step, m => some ((Machine.step m).map .status)
  | .runFor (some limit), m => some ((Machine.runFor limit m).map .stop)
  | .runFor none, m => (Machine.runToStop? patience m).map (·.map .stop)
  | .run, m => (Machine.runToHalt? patience m).map (·.map .exitCode)
  | .execute i field, m => some ((i.execute field m).map fun _ => .done)
  | .assign change, m => some ⟨.ok .done, change m, []⟩
  | .reset, m => some ((Machine.reset m).map fun _ => .done)

/-- The call is not a run without a limit. -/
def Call.IsLimited : Call δ → Prop
  | .runFor none | .run => False
  | _ => True

/-- Only a run without a limit may fail to return. -/
lemma Call.isSome_perform? [Device δ] {call : Call δ} (h : call.IsLimited) (patience : Nat)
    (m : Machine δ) : (call.perform? patience m).isSome := by
  cases call with
  | runFor limit? =>
    cases limit? with
    | some limit => rfl
    | none => exact h.elim
  | run => exact h.elim
  | _ => rfl

namespace Machine

/-- What is seen of a reset, one part of the machine after the other. -/
def resetActivity : List Activity :=
  [.register .reset, .memory .reset, .device .reset, .machine .reset]

/-- A reset leaves a new machine; what is left of the device is for the device to say. -/
lemma reset_apply [Device δ] (m : Machine δ) :
    reset m = ⟨.ok (), new (Device.reset m.device), resetActivity⟩ := rfl

lemma loadProgram_apply (program : List InstructionWord) (m : Machine δ) :
    loadProgram program m =
      ⟨.ok (), { m with core.memory := m.core.memory.storeProgram 0 program },
        [.memory (.load program)]⟩ := rfl

/-! ### What holds of every call -/

variable {P : Machine δ → List Activity → Machine δ → Prop}

/-- A relation between a machine, what is done, and the machine after it goes along with doing one
thing after the other. -/
structure Composes (P : Machine δ → List Activity → Machine δ → Prop) : Prop where
  refl : ∀ m, P m [] m
  trans : ∀ {m m' m'' : Machine δ} {done more : List Activity},
    P m done m' → P m' more m'' → P m (done ++ more) m''

/-- The relation holds of what comes of a transition. -/
def Governs (P : Machine δ → List Activity → Machine δ → Prop) (t : Transition (Machine δ) α) :
    Prop :=
  ∀ m, P m (t m).activity (t m).state

variable [Device δ]

lemma Composes.runFor (h : Composes P) (hstep : Governs P (Machine.step (δ := δ))) (limit : Nat) :
    Governs P (Machine.runFor (δ := δ) limit) := by
  intro m
  induction limit generalizing m with
  | zero => exact h.refl m
  | succ limit ih =>
    have hs := hstep m
    rw [runFor_succ]
    rcases hm : Machine.step m with ⟨f | status, m', done⟩ <;> rw [hm] at hs
    · exact hs
    · cases status with
      | running => exact h.trans hs (ih m')
      | blocked => exact hs
      | halted => exact hs

lemma Composes.runToStop? (h : Composes P) (hstep : Governs P (Machine.step (δ := δ)))
    {patience : Nat} {m : Machine δ} {o : Outcome (Machine δ) Stop}
    (ho : Machine.runToStop? patience m = some o) : P m o.activity o.state := by
  have hrun := h.runFor hstep patience m
  by_cases hlimit : (Machine.runFor patience m).result = .ok .stepLimit
  · rcases hr : Machine.runFor patience m with ⟨result, m', done⟩
    rw [hr] at hlimit
    obtain rfl : result = .ok .stepLimit := hlimit
    rw [Machine.runToStop?, runToStopUnder?, ← Machine.runFor, hr] at ho
    cases ho
  · rw [runToStop?_of_ne_stepLimit hlimit] at ho
    obtain rfl := Option.some.inj ho
    exact hrun

lemma Composes.runToHalt? (h : Composes P) (hstep : Governs P (Machine.step (δ := δ)))
    {patience : Nat} {m : Machine δ} {o : Outcome (Machine δ) Byte}
    (ho : Machine.runToHalt? patience m = some o) : P m o.activity o.state := by
  induction patience generalizing m o with
  | zero =>
    rw [Machine.runToHalt?, runToHaltUnder?, runOnToHalt?, Option.ite_none_right_eq_some] at ho
    obtain ⟨-, ho⟩ := ho
    obtain rfl := Option.some.inj ho
    exact h.refl m
  | succ patience ih =>
    cases halted : m.halted with
    | true =>
      rw [runToHalt?_of_halted halted] at ho
      obtain rfl := Option.some.inj ho
      exact h.refl m
    | false =>
      rw [runToHalt?_succ halted, Option.map_eq_some_iff] at ho
      obtain ⟨rest, hrest, rfl⟩ := ho
      exact h.trans (hstep m) (ih hrest)

/-- What steps, loading, single operations and resetting have in common with all that the host does
itself, every call has. -/
lemma Composes.perform? (h : Composes P) (hstep : Governs P (Machine.step (δ := δ)))
    (hload : ∀ program, Governs P (loadProgram (δ := δ) program))
    (hexecute : ∀ i field, Governs P (Instruction.execute (δ := δ) i field))
    (hreset : Governs P (Machine.reset (δ := δ))) {call : Call δ}
    (harrive : ∀ input, call = .arrive input → ∀ m, P m [] { m with device := input m.device })
    (hassign : ∀ change, call = .assign change → ∀ m, P m [] (change m)) {patience : Nat}
    {m : Machine δ} {o : Outcome (Machine δ) Answer} (ho : call.perform? patience m = some o) :
    P m o.activity o.state := by
  cases call with
  | load program =>
    obtain rfl := Option.some.inj ho
    exact hload program m
  | arrive input =>
    obtain rfl := Option.some.inj ho
    exact harrive input rfl m
  | step =>
    obtain rfl := Option.some.inj ho
    exact hstep m
  | runFor limit? =>
    cases limit? with
    | some limit =>
      obtain rfl := Option.some.inj ho
      exact h.runFor hstep limit m
    | none =>
      obtain ⟨run, hrun, rfl⟩ := Option.map_eq_some_iff.mp ho
      exact h.runToStop? hstep hrun
  | run =>
    obtain ⟨run, hrun, rfl⟩ := Option.map_eq_some_iff.mp ho
    exact h.runToHalt? hstep hrun
  | execute i field =>
    obtain rfl := Option.some.inj ho
    exact hexecute i field m
  | assign change =>
    obtain rfl := Option.some.inj ho
    exact hassign change rfl m
  | reset =>
    obtain rfl := Option.some.inj ho
    exact hreset m

end Machine

/-! ### Requests -/

/-- What the device was asked. -/
def Activity.device? : Activity → Option DeviceEvent
  | .device e => some e
  | _ => none

/-- What comes of a call, for the host and for the observers. -/
structure Reply (δ ε : Type) where
  answer : Except Fault Answer
  /-- The machine after the call. -/
  machine : Machine δ
  deviceCalls : List DeviceEvent
  /-- What the observers wrote during the call. -/
  log : List ε

/-- An observer for one of the channels that a host can watch. -/
inductive Watch (ε : Type)
  | registers (o : RegisterEvent → List ε)
  | memory (o : MemoryEvent → List ε)
  | machine (o : MachineEvent → List ε)

/-- Attaches an observer to its channel. -/
def Observers.attach (observers : Observers ε) : Watch ε → Observers ε
  | .registers o => observers.addRegisters o
  | .memory o => observers.addMemory o
  | .machine o => observers.addMachine o

/-- What a host can ask of a machine under observation. -/
inductive Request (δ ε : Type)
  | call (call : Call δ)
  | attach (watch : Watch ε)

/-- What comes of a call that had the given outcome. -/
def Observers.reply (observers : Observers ε) (outcome : Outcome (Machine δ) Answer) :
    Reply δ ε where
  answer := outcome.result
  machine := outcome.state
  deviceCalls := outcome.activity.filterMap Activity.device?
  log := observers.log outcome.activity

namespace Observed

/-- Answers requests one after the other, given how calls are performed in front of observers.
Nothing comes of them if a call never returns. -/
def serveBy? (perform? : Observers ε → Call δ → Machine δ → Option (Outcome (Machine δ) Answer)) :
    List (Request δ ε) → Observed (Machine δ) ε →
      Option (List (Reply δ ε) × Observed (Machine δ) ε)
  | [], o => some ([], o)
  | .attach watch :: requests, o =>
    serveBy? perform? requests { o with observers := o.observers.attach watch }
  | .call call :: requests, o => do
    let outcome ← perform? o.observers call o.state
    let (replies, last) ← serveBy? perform? requests { o with state := outcome.state }
    return (o.observers.reply outcome :: replies, last)

/-- Answers requests one after the other. A run without a limit is given up after `patience`
steps. -/
def serve? [Device δ] (patience : Nat) :
    List (Request δ ε) → Observed (Machine δ) ε →
      Option (List (Reply δ ε) × Observed (Machine δ) ε) :=
  serveBy? fun _ call => call.perform? patience

section Serve

variable {perform? : Observers ε → Call δ → Machine δ → Option (Outcome (Machine δ) Answer)}

@[simp] lemma serveBy?_nil (o : Observed (Machine δ) ε) :
    serveBy? perform? [] o = some ([], o) := rfl

@[simp] lemma serveBy?_attach (watch : Watch ε) (requests : List (Request δ ε))
    (o : Observed (Machine δ) ε) :
    serveBy? perform? (.attach watch :: requests) o =
      serveBy? perform? requests { o with observers := o.observers.attach watch } := rfl

lemma serveBy?_call (call : Call δ) (requests : List (Request δ ε)) (o : Observed (Machine δ) ε) :
    serveBy? perform? (.call call :: requests) o =
      (perform? o.observers call o.state).bind fun outcome =>
        (serveBy? perform? requests { o with state := outcome.state }).map fun (replies, last) =>
          (o.observers.reply outcome :: replies, last) := by
  rw [serveBy?]
  cases perform? o.observers call o.state with
  | none => rfl
  | some outcome =>
    cases h : serveBy? perform? requests { o with state := outcome.state } <;> simp [h]

lemma serveBy?_append (requests more : List (Request δ ε)) (o : Observed (Machine δ) ε) :
    serveBy? perform? (requests ++ more) o =
      (serveBy? perform? requests o).bind fun (replies, middle) =>
        (serveBy? perform? more middle).map fun (further, last) => (replies ++ further, last) := by
  induction requests generalizing o with
  | nil =>
    cases h : serveBy? perform? more o <;> simp [h]
  | cons request requests ih =>
    cases request with
    | attach watch => exact ih _
    | call call =>
      rw [List.cons_append, serveBy?_call, serveBy?_call]
      cases perform? o.observers call o.state with
      | none => rfl
      | some outcome =>
        simp only [Option.bind_some, ih, Option.map_bind, Option.bind_map, Function.comp_def,
          Option.map_map, List.cons_append]

end Serve

variable [Device δ]

lemma serve?_append (patience : Nat) (requests more : List (Request δ ε))
    (o : Observed (Machine δ) ε) :
    o.serve? patience (requests ++ more) =
      (o.serve? patience requests).bind fun (replies, middle) =>
        (middle.serve? patience more).map fun (further, last) => (replies ++ further, last) :=
  serveBy?_append requests more o

/-- A call is answered if it returns and all after it is answered. -/
lemma serve?_call_eq_some_iff {patience : Nat} {call : Call δ} {requests : List (Request δ ε)}
    {o last : Observed (Machine δ) ε} {replies : List (Reply δ ε)} :
    o.serve? patience (.call call :: requests) = some (replies, last) ↔
      ∃ outcome rest, call.perform? patience o.state = some outcome ∧
        serve? patience requests { o with state := outcome.state } = some (rest, last) ∧
        replies = o.observers.reply outcome :: rest := by
  rw [serve?, serveBy?_call, Option.bind_eq_some_iff]
  constructor
  · rintro ⟨outcome, houtcome, h⟩
    obtain ⟨⟨rest, last'⟩, hrest, heq⟩ := Option.map_eq_some_iff.mp h
    obtain ⟨rfl, rfl⟩ := Prod.mk.inj heq
    exact ⟨outcome, rest, houtcome, hrest, rfl⟩
  · rintro ⟨outcome, rest, houtcome, hrest, rfl⟩
    exact ⟨outcome, houtcome, Option.map_eq_some_iff.mpr ⟨(rest, last), hrest, rfl⟩⟩

/-- Calls without unlimited runs are all answered. -/
lemma isSome_serve? {calls : List (Call δ)} (h : ∀ call ∈ calls, call.IsLimited) (patience : Nat)
    (o : Observed (Machine δ) ε) : (o.serve? patience (calls.map .call)).isSome := by
  induction calls generalizing o with
  | nil => rfl
  | cons call calls ih =>
    rw [List.forall_mem_cons] at h
    obtain ⟨outcome, houtcome⟩ :=
      Option.isSome_iff_exists.mp (Call.isSome_perform? h.1 patience o.state)
    obtain ⟨⟨rest, last⟩, hrest⟩ :=
      Option.isSome_iff_exists.mp (ih h.2 { o with state := outcome.state })
    rw [List.map_cons, serve?_call_eq_some_iff.mpr ⟨outcome, rest, houtcome, hrest, rfl⟩]
    rfl

/-- Observers stay attached while calls are made. -/
lemma observers_of_serve? {patience : Nat} {calls : List (Call δ)} {o last : Observed (Machine δ) ε}
    {replies : List (Reply δ ε)} (h : o.serve? patience (calls.map .call) = some (replies, last)) :
    last.observers = o.observers := by
  induction calls generalizing o replies with
  | nil =>
    obtain ⟨-, rfl⟩ := Prod.mk.inj (Option.some.inj h)
    rfl
  | cons call calls ih =>
    obtain ⟨outcome, rest, -, hrest, -⟩ := serve?_call_eq_some_iff.mp h
    have hlast := ih hrest
    exact hlast

/-- Every call is replied to. -/
lemma length_of_serve? {patience : Nat} {calls : List (Call δ)} {o last : Observed (Machine δ) ε}
    {replies : List (Reply δ ε)} (h : o.serve? patience (calls.map .call) = some (replies, last)) :
    replies.length = calls.length := by
  induction calls generalizing o replies with
  | nil =>
    obtain ⟨rfl, -⟩ := Prod.mk.inj (Option.some.inj h)
    rfl
  | cons call calls ih =>
    obtain ⟨outcome, rest, -, hrest, rfl⟩ := serve?_call_eq_some_iff.mp h
    rw [List.length_cons, List.length_cons, ih hrest]

end Observed

end LectureMachine
