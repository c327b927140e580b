import LectureMachine.Proofs.Instruction.Log
import LectureMachine.Proofs.Machine.Calls
import LectureMachine.Proofs.Machine.ZeroRegister
import LectureMachine.Device.Buffered

/-!
# Logged machines

An observer of the registers and an observer of the memory miss nothing. What they write down while
calls are made leads from storage of zeros to the registers and the memory that the machine has, and
what they write about reading is right each time. Nor does an instruction find out anything about
the registers and the memory that they did not see it read.
-/

namespace LectureMachine

open Transition
open Activity (IsAccess IsInner)

variable {δ : Type}

/-! ### Steps -/

namespace Machine

/-- What was done is a full account of how the storage of a machine was used. -/
def Accounted (m : Machine δ) (done : List Activity) (m' : Machine δ) : Prop :=
  m.storage.Accounts done m'.storage

lemma composes_accounted : Composes (Accounted (δ := δ)) where
  refl m := .nil m.storage
  trans h h' := h.append h'

variable [Device δ]

lemma logs_executeCurrent : Logs IsInner (executeCurrent : Transition (Machine δ) Unit) := by
  apply ((logs_onCore Core.logs_loadInstruction).mono fun _ => IsAccess.isInner).bind
  intro _
  apply logged_get_bind
  · exact fun m => m.core.ir.logs_execute
  · intro m m' hbare
    obtain ⟨hcore, -⟩ := bare_eq_iff.mp hbare
    obtain ⟨-, hir, -⟩ := Core.bare_eq_iff.mp hcore
    rw [hir]

/-- What is said about the machine as a whole at the end of a step is all that a step adds to its
instruction. -/
lemma activity_step {m : Machine δ} (running : m.halted = false) :
    ∃ e, (step m).activity = (executeCurrent m).activity ++ [.machine e] := by
  rcases he : executeCurrent m with ⟨f | ⟨⟩, m', done⟩
  · rw [step_of_error running he]
    exact ⟨_, rfl⟩
  · obtain ⟨status, core, steps, e, hadvance⟩ := m'.advance_shape
    rw [step_of_ok running he, hadvance]
    exact ⟨e, rfl⟩

lemma accounted_step : Governs Accounted (step (δ := δ)) := by
  intro m
  cases running : m.halted with
  | true =>
    rw [step_of_halted running]
    exact .nil m.storage
  | false =>
    obtain ⟨ip, jumped, hcore⟩ := core_step running
    obtain ⟨e, hactivity⟩ := activity_step running
    have hstorage : (step m).state.storage = (executeCurrent m).state.storage := by
      rw [storage, hcore]
      rfl
    rw [Accounted, hactivity, hstorage]
    exact (logs_executeCurrent.accounts m).append ⟨rfl, trivial, trivial⟩

omit [Device δ] in
lemma accounted_loadProgram (program : List InstructionWord) :
    Governs Accounted (loadProgram (δ := δ) program) := by
  intro m
  refine ⟨?_, trivial, trivial⟩
  apply Storage.ext
  · rfl
  · funext x
    have hbyte := m.core.memory.byte_storeProgram 0 program x
    rw [if_pos (by omega)] at hbyte
    exact hbyte.symm

omit [Device δ] in
/-- A new machine has nothing but zeros in store. -/
lemma storage_new (device : δ) : (new device).storage = {} := by
  apply Storage.ext
  · funext r
    exact Alu.peek_empty r
  · funext x
    exact Memory.byte_empty x

lemma accounted_reset : Governs Accounted (reset (δ := δ)) := by
  intro m
  rw [Accounted, reset_apply, storage_new]
  exact ⟨rfl, trivial, trivial, trivial, trivial, trivial⟩

end Machine

/-! ### Calls -/

/-- The host puts no values of its own into the machine. -/
def Call.IsSeen : Call δ → Prop
  | .assign _ => False
  | _ => True

/-- An observer of the registers and one of the memory that write down all that they see. -/
def recorders : Observers Activity where
  registers := [fun e => [.register e]]
  memory := [fun e => [.memory e]]

lemma Call.accounted [Device δ] {call : Call δ} (hseen : call.IsSeen) {patience : Nat}
    {m : Machine δ} {o : Outcome (Machine δ) Answer} (h : call.perform? patience m = some o) :
    m.Accounted o.activity o.state := by
  apply Machine.composes_accounted.perform? Machine.accounted_step Machine.accounted_loadProgram
    (fun i field => (i.logs_execute field).accounts) Machine.accounted_reset _ _ h
  · intro input _ m
    exact .nil m.storage
  · rintro change rfl
    exact hseen.elim

/-! ### What the observers write -/

namespace Storage

@[simp] lemma replay_log_recorders (s : Storage) (done : List Activity) :
    s.replay (recorders.log done) = s.replay done := by
  induction done generalizing s with
  | nil => rfl
  | cons a done ih =>
    rw [Observers.log_cons, replay_append, ih]
    cases a <;> rfl

@[simp] lemma attestsAll_log_recorders (s : Storage) (done : List Activity) :
    s.AttestsAll (recorders.log done) ↔ s.AttestsAll done := by
  induction done generalizing s with
  | nil => rfl
  | cons a done ih =>
    rw [Observers.log_cons, attestsAll_append, ih, attestsAll_cons]
    cases a <;> simp [recorders, Observers.entries, Attests, after]

/-- The observers write down all that there is to account for. -/
lemma Accounts.log_recorders {s s' : Storage} {done : List Activity} (h : s.Accounts done s') :
    s.Accounts (recorders.log done) s' := by
  constructor
  · rw [replay_log_recorders, h.replays]
  · rw [attestsAll_log_recorders]
    exact h.attests

end Storage

namespace Observed

variable [Device δ]

/-- What is written during the first calls leads from what was stored before them to what is stored
after them. -/
lemma accounts_take_replies {patience k : Nat} {calls : List (Call δ)}
    (hseen : ∀ call ∈ calls, call.IsSeen) {o last : Observed (Machine δ) Activity}
    (ho : o.observers = recorders) {replies : List (Reply δ Activity)}
    (h : o.serve? patience (calls.map .call) = some (replies, last)) (hk : k < replies.length) :
    o.state.storage.Accounts ((replies.take (k + 1)).flatMap (·.log))
      replies[k].machine.storage := by
  induction calls generalizing o replies k with
  | nil =>
    obtain ⟨rfl, -⟩ := Prod.mk.inj (Option.some.inj h)
    cases hk
  | cons call calls ih =>
    obtain ⟨outcome, rest, houtcome, hrest, rfl⟩ := serve?_call_eq_some_iff.mp h
    have hcall : o.state.storage.Accounts (o.observers.reply outcome).log
        (o.observers.reply outcome).machine.storage := by
      rw [Observers.reply, ho]
      exact (Call.accounted (hseen call List.mem_cons_self) houtcome).log_recorders
    cases k with
    | zero => simpa using hcall
    | succ k =>
      have hthen := ih (o := { o with state := outcome.state })
        (fun call hmem => hseen call (List.mem_cons_of_mem _ hmem)) ho hrest
        (Nat.lt_of_succ_lt_succ hk)
      simpa using hcall.append hthen

/-- A new machine is watched by an observer of its registers and one of its memory while any calls
are made to it, each of which is answered unless a run without a limit goes on. After every call,
replaying all that the observers have written down so far, from zeros on, gives the registers and
the memory of the machine, and each value that they have seen it read is the one found there in the
replay. No access escapes them: an instruction leaves the registers and the memory as the replay of
what they write about it does, and a machine that is like the first one but for the registers and
the memory does the same if it only has the same values where they have seen the first one read. -/
theorem replay_log_eq_storage (device : δ) (patience : Nat) {calls : List (Call δ)}
    (hseen : ∀ call ∈ calls, call.IsSeen) :
    let answered := serve? patience (calls.map .call) ⟨.new device, recorders⟩
    ((∀ call ∈ calls, call.IsLimited) → answered.isSome) ∧
    (∀ (replies : List (Reply δ Activity)) (last : Observed (Machine δ) Activity),
      answered = some (replies, last) →
        replies.length = calls.length ∧
        ∀ (k : Nat) (hk : k < replies.length),
          Storage.Accounts {} ((replies.take (k + 1)).flatMap (·.log))
            replies[k].machine.storage) ∧
    ∀ m m' : Machine δ,
      let log := recorders.log (Machine.executeCurrent m).activity
      m'.bare = m.bare → m'.storage.AttestsAll log →
        (Machine.executeCurrent m').result = (Machine.executeCurrent m).result ∧
        (Machine.executeCurrent m').activity = (Machine.executeCurrent m).activity ∧
        (Machine.executeCurrent m').state.bare = (Machine.executeCurrent m).state.bare ∧
        (Machine.executeCurrent m').state.storage = m'.storage.replay log := by
  intro answered
  refine ⟨fun hlimited => isSome_serve? hlimited patience _, ?_, ?_⟩
  · intro replies last h
    refine ⟨length_of_serve? h, ?_⟩
    intro k hk
    have haccounts := accounts_take_replies hseen rfl h hk
    rwa [Machine.storage_new] at haccounts
  · intro m m' log hbare hattests
    rw [Storage.attestsAll_log_recorders] at hattests
    obtain ⟨hresult, hdone, hbare'⟩ := Machine.logs_executeCurrent.determined m m' hbare hattests
    refine ⟨hresult, hdone, hbare', ?_⟩
    rw [Storage.replay_log_recorders, ← hdone, (Machine.logs_executeCurrent.accounts m').replays]

/-- A program is loaded that loads a number into a register, and a step is taken. -/
def loadAndStep : List (Call Buffered) := [.load [0x56002A01], .step]

theorem replay_log_eq_storage_loadAndStep :
    ∃ replies last,
      serve? 0 (loadAndStep.map .call) ⟨.new {}, recorders⟩ = some (replies, last) ∧
      ∃ h : 1 < replies.length,
        Storage.Accounts {} ((replies.take 2).flatMap (·.log)) replies[1].machine.storage := by
  have hseen : ∀ call ∈ loadAndStep, call.IsSeen := by simp [loadAndStep, Call.IsSeen]
  have hlimited : ∀ call ∈ loadAndStep, call.IsLimited := by simp [loadAndStep, Call.IsLimited]
  obtain ⟨hsome, hanswered, -⟩ := replay_log_eq_storage ({} : Buffered) 0 hseen
  obtain ⟨⟨replies, last⟩, h⟩ := Option.isSome_iff_exists.mp (hsome hlimited)
  obtain ⟨hlength, haccounts⟩ := hanswered replies last h
  have hlt : 1 < replies.length := hlength ▸ (by decide : 1 < loadAndStep.length)
  exact ⟨replies, last, h, hlt, haccounts 1 hlt⟩

end Observed

end LectureMachine
