import LectureMachine.Proofs.Machine.Feeding

/-!
# When input arrives

A host pushes input in pieces and lets the machine take steps in between. What the machine has done
after a number of completed instructions does not depend on how the host has mixed the two. To see
this, a session is compared with a machine that had all the input from the start and never waits
for it: the session keeps in line with it, and what it has not been given yet is what the other
machine still has at the end of its queue.
-/

namespace LectureMachine

open Transition

/-- What a host does to a machine over a buffered device. -/
inductive HostAction
  | push (bytes : List Byte)
  | step
  deriving DecidableEq

/-- A machine, and what its host has seen of it. -/
structure Session where
  machine : Machine Buffered
  /-- What the last step has led to; before the first one the machine runs. -/
  last : Except Fault Status := .ok .running
  /-- The number of instructions completed. -/
  completed : Nat := 0
  /-- The input that was pushed. -/
  received : List Byte := []
  /-- The input that the machine has taken from the device. -/
  taken : List Byte := []

namespace Session

/-- The session with a machine that was just switched on. -/
def powerOn (program : List InstructionWord) : Session :=
  { machine := (Machine.loadProgram program (Machine.new {})).state }

/-- The session goes on. A step completes an instruction if the machine runs afterwards. -/
def perform (a : Session) : HostAction → Session
  | .push bytes => { a with machine := a.machine.fed bytes, received := a.received ++ bytes }
  | .step =>
    let o := Machine.step a.machine
    { a with
      machine := o.state
      last := o.result
      completed :=
        match o.result with
        | .ok .running => a.completed + 1
        | _ => a.completed
      taken := a.taken ++ LectureMachine.taken o.activity }

/-- The session goes on by a schedule. -/
def play (a : Session) (schedule : List HostAction) : Session := schedule.foldl perform a

@[simp] lemma play_nil (a : Session) : a.play [] = a := rfl

@[simp] lemma play_cons (a : Session) (action : HostAction) (schedule : List HostAction) :
    a.play (action :: schedule) = (a.perform action).play schedule := rfl

/-- What every action keeps is kept by a schedule. -/
lemma play_preserves {p : Session → Prop} (h : ∀ a action, p a → p (a.perform action))
    {a : Session} (ha : p a) (schedule : List HostAction) : p (a.play schedule) := by
  induction schedule generalizing a with
  | nil => exact ha
  | cons action schedule ih => exact ih (h a action ha)

lemma received_perform_step (a : Session) : (a.perform .step).received = a.received := rfl

/-- Nothing of the input is lost, doubled or moved: it was taken, or it is in the queue. -/
lemma taken_append_input (program : List InstructionWord) (schedule : List HostAction) :
    let a := (powerOn program).play schedule
    a.taken ++ a.machine.device.input = a.received := by
  refine play_preserves (p := fun a => a.taken ++ a.machine.device.input = a.received)
    (fun a action h => ?_) rfl schedule
  cases action with
  | push bytes =>
    change a.taken ++ (a.machine.device.input ++ bytes) = a.received ++ bytes
    rw [← h, List.append_assoc]
  | step =>
    change a.taken ++ LectureMachine.taken (Machine.step a.machine).activity
      ++ (Machine.step a.machine).state.device.input = a.received
    rw [List.append_assoc, a.machine.taken_append_step, h]

/-! ### Keeping in line -/

/-- The machine that had all the input from the start, after a number of steps. -/
def ahead (start : Machine Buffered) : Nat → Machine Buffered
  | 0 => start
  | k + 1 => (Machine.step (ahead start k)).state

/-- How a session stands to a machine `whole` that has the rest of the input already. -/
inductive Tracks (a : Session) (whole : Machine Buffered) (rest : List Byte) : Prop
  /-- The session has completed the same instructions. -/
  | running (hlast : a.last = .ok .running) (hh : a.machine.halted = false)
    (hb : a.machine.blocked = false) (hw : a.machine.fed rest = whole)
  /-- It has, and then it has waited for input. -/
  | blocked (m : Machine Buffered) (word : InstructionWord) (hlast : a.last = .ok .blocked)
    (hm : a.machine = m.waiting word) (hh : m.halted = false) (hb : m.blocked = false)
    (hi : m.nextInstruction = some .getc) (hw : m.fed rest = whole)
  /-- It has, and then it has halted, as the other machine does in the next step. -/
  | halted (hlast : a.last = .ok .halted) (hh : a.machine.halted = true)
    (hrunning : whole.halted = false) (hw : a.machine.fed rest = (Machine.step whole).state)

/-- The session keeps in line with a machine that has the rest of the input, whatever it is. -/
def Follows (start : Machine Buffered) (a : Session) : Prop :=
  ∀ rest, a.Tracks (ahead (start.fed (a.received ++ rest)) a.completed) rest

variable {a b : Session} {start whole : Machine Buffered} {input rest : List Byte}

/-- A session that has not halted takes the step of a machine that is in line and does not wait. -/
lemma Tracks.exists_settled (h : a.Tracks whole rest) (hlast : a.last ≠ .ok .halted) :
    ∃ m, m.halted = false ∧ m.blocked = false ∧ m.fed rest = whole ∧
      Machine.step a.machine = Machine.step m ∧ a.machine.device = m.device ∧
      a.machine.nextInstruction = m.nextInstruction := by
  cases h with
  | running _ hh hb hw => exact ⟨a.machine, hh, hb, hw, rfl, rfl, rfl⟩
  | blocked m word _ hm hh hb hi hw =>
    rw [hm]
    exact ⟨m, hh, hb, hw, Machine.step_waiting hh hi word, rfl, rfl⟩
  | halted h _ _ _ => exact absurd h hlast

lemma Tracks.push {bytes : List Byte}
    (h : a.Tracks whole (bytes ++ rest)) : (a.perform (.push bytes)).Tracks whole rest := by
  cases h with
  | running hlast hh hb hw => exact .running hlast hh hb ((Machine.fed_fed _ _ _).trans hw)
  | blocked m word hlast hm hh hb hi hw =>
    refine .blocked (m.fed bytes) word hlast ?_ hh hb hi ((Machine.fed_fed _ _ _).trans hw)
    change a.machine.fed bytes = (m.fed bytes).waiting word
    rw [hm]
    rfl
  | halted hlast hh hrunning hw =>
    exact .halted hlast hh hrunning ((Machine.fed_fed _ _ _).trans hw)

/-- A session in line that has not halted waits for input or takes the step of the other machine. -/
lemma Tracks.step_cases (h : a.Tracks whole rest) (hlast : a.last ≠ .ok .halted) :
    (a.machine.Starved ∧ (a.perform .step).completed = a.completed ∧
      (a.perform .step).Tracks whole rest) ∨
    (¬ a.machine.Starved ∧ (a.perform .step).last = .ok .halted ∧
      (a.perform .step).completed = a.completed ∧ (a.perform .step).Tracks whole rest) ∨
    (¬ a.machine.Starved ∧ (a.perform .step).last = .ok .running ∧
      (a.perform .step).completed = a.completed + 1 ∧
      (a.perform .step).Tracks (Machine.step whole).state rest) := by
  obtain ⟨m, hh, hb, hw, hstep, hdevice, hi⟩ := h.exists_settled hlast
  have hstarved : a.machine.Starved ↔ m.Starved := by
    rw [Machine.Starved, Machine.Starved, hdevice, hi]
  rw [hstarved]
  by_cases hs : m.Starved
  · obtain ⟨word, v, -, -, hwaits⟩ := Machine.step_of_starved hh hs
    refine .inl ⟨hs, ?_, .blocked m word ?_ ?_ hh hb hs.1 hw⟩
    all_goals simp only [perform, hstep, hwaits]
  have hfed : (Machine.step m).state.fed rest = (Machine.step whole).state := by
    rw [← hw, Machine.step_fed hs]
    rfl
  have hmachine : (a.perform .step).machine = (Machine.step m).state := congrArg Outcome.state hstep
  have hresult : (a.perform .step).last = (Machine.step m).result := congrArg Outcome.result hstep
  rw [← hmachine] at hfed
  rcases Machine.step_of_not_starved hh hb hs with ⟨hr, hhalted⟩ | ⟨hr, hrunning, hblocked⟩
  · rw [hr] at hresult
    rw [← hmachine] at hhalted
    refine .inr (.inl ⟨hs, hresult, ?_, .halted hresult hhalted ?_ hfed⟩)
    · simp only [perform, hstep, hr]
    · rw [← hw]
      exact hh
  · rw [hr] at hresult
    rw [← hmachine] at hrunning hblocked
    refine .inr (.inr ⟨hs, hresult, ?_, .running hresult hrunning hblocked hfed⟩)
    simp only [perform, hstep, hr]

lemma perform_step_of_halted (hlast : a.last = .ok .halted) (hh : a.machine.halted = true) :
    a.perform .step = a := by
  rcases a with ⟨machine, last, completed, received, done⟩
  obtain rfl : last = .ok .halted := hlast
  simp [perform, Machine.step_of_halted hh, LectureMachine.taken]

lemma Tracks.of_running (h : a.Tracks whole rest) (hlast : a.last = .ok .running) :
    a.machine.fed rest = whole := by
  cases h with
  | running _ _ _ hw => exact hw
  | blocked _ _ h _ _ _ _ _ => cases h.symm.trans hlast
  | halted h _ _ _ => cases h.symm.trans hlast

lemma Tracks.of_halted (h : a.Tracks whole rest) (hlast : a.last = .ok .halted) :
    a.machine.halted = true ∧ whole.halted = false ∧
      a.machine.fed rest = (Machine.step whole).state := by
  cases h with
  | running h _ _ _ => cases h.symm.trans hlast
  | blocked _ _ h _ _ _ _ _ => cases h.symm.trans hlast
  | halted _ hh hrunning hw => exact ⟨hh, hrunning, hw⟩

/-- A session keeps in line whatever its host does. -/
lemma Follows.perform (h : a.Follows start) (action : HostAction) :
    (a.perform action).Follows start := by
  intro rest
  cases action with
  | push bytes =>
    have htracks := h (bytes ++ rest)
    rw [← List.append_assoc] at htracks
    exact htracks.push
  | step =>
    have htracks := h rest
    by_cases hlast : a.last = .ok .halted
    · rw [perform_step_of_halted hlast (htracks.of_halted hlast).1]
      exact htracks
    rw [received_perform_step]
    rcases htracks.step_cases hlast with ⟨-, hc, ht⟩ | ⟨-, -, hc, ht⟩ | ⟨-, -, hc, ht⟩
    all_goals
      rw [hc]
      exact ht

lemma follows_powerOn (program : List InstructionWord) :
    (powerOn program).Follows (powerOn program).machine := by
  intro rest
  exact .running rfl rfl rfl rfl

lemma follows_play (program : List InstructionWord) (schedule : List HostAction) :
    ((powerOn program).play schedule).Follows (powerOn program).machine :=
  play_preserves (fun _ action h => h.perform action) (follows_powerOn program) schedule

/-- A session keeps in line with the machine that had all of a longer input from the start. -/
lemma Follows.tracks (h : a.Follows start) (hinput : a.received <+: input) :
    ∃ rest, a.Tracks (ahead (start.fed input) a.completed) rest := by
  obtain ⟨rest, rfl⟩ := hinput
  exact ⟨rest, h rest⟩

/-! ### Halting -/

lemma ahead_of_starved {j : Nat} (hs : (ahead start j).Starved)
    (hh : (ahead start j).halted = false) (n : Nat) :
    (ahead start (j + n)).Starved ∧ (ahead start (j + n)).halted = false := by
  induction n with
  | zero => exact ⟨hs, hh⟩
  | succ n ih =>
    obtain ⟨word, v, -, -, hstep⟩ := Machine.step_of_starved ih.2 ih.1
    rw [← Nat.add_assoc, ahead, hstep]
    exact ih

lemma ahead_of_halted {j : Nat} (hh : (ahead start j).halted = true) (n : Nat) :
    (ahead start (j + n)).halted = true := by
  induction n with
  | zero => exact hh
  | succ n ih =>
    rw [← Nat.add_assoc, ahead, Machine.step_of_halted ih]
    exact ih

/-- More input makes no difference until the machine waits for input. -/
lemma ahead_fed {k : Nat} (h : ∀ j < k, ¬ (ahead start j).Starved) (bytes : List Byte) :
    ahead (start.fed bytes) k = (ahead start k).fed bytes := by
  induction k with
  | zero => rfl
  | succ k ih =>
    have hfed := ih fun j hj => h j (Nat.lt_succ_of_lt hj)
    rw [ahead, ahead, hfed, Machine.step_fed (h k k.lt_succ_self)]
    rfl

/-- The machine halts when it has completed `k` instructions. -/
def HaltsAt (start : Machine Buffered) (k : Nat) : Prop :=
  (ahead start k).halted = false ∧ (ahead start (k + 1)).halted = true

lemma HaltsAt.le {j k : Nat} (h : HaltsAt start k) (hj : (ahead start j).halted = false) :
    j ≤ k := by
  by_contra hlt
  obtain ⟨n, rfl⟩ := Nat.exists_eq_add_of_le (Nat.lt_of_not_le hlt)
  rw [ahead_of_halted h.2 n] at hj
  cases hj

/-- A machine that is going to halt never waits for input. -/
lemma HaltsAt.not_starved {j k : Nat} (h : HaltsAt start k) (hj : j ≤ k) :
    ¬ (ahead start j).Starved := by
  intro hs
  obtain ⟨n, rfl⟩ := Nat.exists_eq_add_of_le hj
  cases hh : (ahead start j).halted with
  | true =>
    have hhalted := ahead_of_halted hh n
    rw [h.1] at hhalted
    cases hhalted
  | false =>
    have hrunning := (ahead_of_starved hs hh (n + 1)).2
    rw [← Nat.add_assoc, h.2] at hrunning
    cases hrunning

lemma Follows.haltsAt (h : a.Follows start) (hinput : a.received <+: input)
    (hlast : a.last = .ok .halted) :
    HaltsAt (start.fed input) a.completed := by
  obtain ⟨rest, htracks⟩ := h.tracks hinput
  obtain ⟨hh, hrunning, hw⟩ := htracks.of_halted hlast
  refine ⟨hrunning, ?_⟩
  rw [ahead, ← hw]
  exact hh

/-- A session that has been given as much input as another one needed to halt does not wait. -/
lemma Follows.not_starved (ha : a.Follows start) (hhalted : a.last = .ok .halted)
    (hb : b.Follows start) (hlast : b.last ≠ .ok .halted) (hinput : a.received <+: b.received) :
    b.completed ≤ a.completed ∧ ¬ b.machine.Starved := by
  have htracks := hb []
  rw [List.append_nil] at htracks
  obtain ⟨m, hh, -, hw, -, hdevice, hi⟩ := htracks.exists_settled hlast
  rw [Machine.fed_nil] at hw
  have hle : b.completed ≤ a.completed := by
    refine (ha.haltsAt hinput hhalted).le ?_
    rw [← hw]
    exact hh
  refine ⟨hle, fun hs => ?_⟩
  -- The other session's machine, with just the input it had, would wait as well.
  have hwaits : ∀ j ≤ a.completed, ¬ (ahead (start.fed a.received) j).Starved :=
    fun j hj => (ha.haltsAt List.prefix_rfl hhalted).not_starved hj
  obtain ⟨extra, hextra⟩ := hinput
  have hahead := ahead_fed (fun j hj => hwaits j (Nat.le_trans (Nat.le_of_lt hj) hle)) extra
  rw [Machine.fed_fed, hextra, ← hw] at hahead
  obtain ⟨hgetc, hnil⟩ := Machine.starved_iff.mp hs
  rw [hi, hahead] at hgetc
  rw [hdevice, hahead] at hnil
  exact hwaits _ hle (Machine.starved_iff.mpr ⟨hgetc, (List.append_eq_nil_iff.mp hnil).1⟩)

lemma last_play_of_halted (hlast : a.last = .ok .halted) (hh : a.machine.halted = true)
    (schedule : List HostAction) :
    (a.play schedule).last = .ok .halted := by
  refine (play_preserves (p := fun a => a.last = .ok .halted ∧ a.machine.halted = true)
    (fun a action h => ?_) ⟨hlast, hh⟩ schedule).1
  cases action with
  | push bytes => exact h
  | step =>
    rw [perform_step_of_halted h.1 h.2]
    exact h

/-- Once a session has been given as much input as another one needed to halt, every step completes
an instruction until it halts as well. -/
lemma Follows.play_of_halts (ha : a.Follows start) (hhalted : a.last = .ok .halted)
    (hb : b.Follows start) (hinput : a.received <+: b.received) (more : List HostAction) :
    (b.play more).last = .ok .halted ∨
      (b.play more).completed = b.completed + more.count .step := by
  induction more generalizing b with
  | nil => exact .inr rfl
  | cons action more ih =>
    by_cases hlast : b.last = .ok .halted
    · exact .inl (last_play_of_halted hlast ((hb []).of_halted hlast).1 _)
    have hnext := hb.perform action
    cases action with
    | push bytes =>
      have h := ih hnext (hinput.trans (List.prefix_append b.received bytes))
      have hne : HostAction.push bytes ≠ .step := nofun
      rwa [play_cons, List.count_cons_of_ne hne]
    | step =>
      have h := ih hnext hinput
      rw [play_cons, List.count_cons_self]
      rcases (hb []).step_cases hlast with ⟨hs, -⟩ | ⟨-, hl, -, ht⟩ | ⟨-, -, hc, -⟩
      · exact absurd hs (ha.not_starved hhalted hb hlast hinput).2
      · exact .inl (last_play_of_halted hl (ht.of_halted hl).1 more)
      · rw [hc] at h
        exact h.imp_right fun h => by omega

/-! ### Results -/

/-- The machines are alike in all but the input that waits for them. -/
structure Agrees (m m' : Machine Buffered) : Prop where
  core : m.core = m'.core
  output : m.device.output = m'.device.output
  halted : m.halted = m'.halted
  blocked : m.blocked = m'.blocked
  exit_code : m.exitCode = m'.exitCode
  errorMessage : m.errorMessage = m'.errorMessage
  fault : m.fault = m'.fault
  steps : m.steps = m'.steps

lemma agrees_of_fed_eq {m m' : Machine Buffered} {rest' : List Byte}
    (h : m.fed rest = m'.fed rest') : Agrees m m' where
  core := congrArg (·.core) h
  output := congrArg (·.device.output) h
  halted := congrArg (·.halted) h
  blocked := congrArg (·.blocked) h
  exit_code := congrArg (·.exitCode) h
  errorMessage := congrArg (·.errorMessage) h
  fault := congrArg (·.fault) h
  steps := congrArg (·.steps) h

/-- Sessions that have just completed as many instructions are alike. -/
lemma Follows.agrees_of_running (ha : a.Follows start) (hb : b.Follows start)
    (hinput : a.received <+: input) (hinput' : b.received <+: input)
    (hrunning : a.last = .ok .running) (hrunning' : b.last = .ok .running)
    (hcompleted : a.completed = b.completed) :
    Agrees a.machine b.machine := by
  obtain ⟨rest, htracks⟩ := ha.tracks hinput
  obtain ⟨rest', htracks'⟩ := hb.tracks hinput'
  have hw := htracks.of_running hrunning
  have hw' := htracks'.of_running hrunning'
  rw [hcompleted, ← hw'] at hw
  exact agrees_of_fed_eq hw

/-- Sessions that have halted did so after as many instructions, and are alike. -/
lemma Follows.agrees_of_halted (ha : a.Follows start) (hb : b.Follows start)
    (hinput : a.received <+: input) (hinput' : b.received <+: input)
    (hhalted : a.last = .ok .halted) (hhalted' : b.last = .ok .halted) :
    a.completed = b.completed ∧ Agrees a.machine b.machine := by
  have hhalts := ha.haltsAt hinput hhalted
  have hhalts' := hb.haltsAt hinput' hhalted'
  have hcompleted := Nat.le_antisymm (hhalts'.le hhalts.1) (hhalts.le hhalts'.1)
  refine ⟨hcompleted, ?_⟩
  obtain ⟨rest, htracks⟩ := ha.tracks hinput
  obtain ⟨rest', htracks'⟩ := hb.tracks hinput'
  obtain ⟨-, -, hw⟩ := htracks.of_halted hhalted
  obtain ⟨-, -, hw'⟩ := htracks'.of_halted hhalted'
  rw [hcompleted, ← hw'] at hw
  exact agrees_of_fed_eq hw

lemma received_prefix_play (a : Session) (schedule : List HostAction) :
    a.received <+: (a.play schedule).received := by
  refine play_preserves (p := fun b => a.received <+: b.received) (fun b action h => ?_)
    List.prefix_rfl schedule
  cases action with
  | push bytes => exact h.trans (List.prefix_append b.received bytes)
  | step => exact h

/-- Two hosts push the same input and let the machine take steps, each by its own schedule. Whenever
both machines have just completed as many instructions, they are alike. If one machine halts, then
the other one, once it has been given as much input, completes an instruction in every step until it
halts after as many as the first one, and then they are alike as well. No byte of the input is lost,
doubled or moved. -/
theorem schedule_irrelevant (program : List InstructionWord) (input : List Byte)
    (schedule schedule' : List HostAction)
    (hinput : ((powerOn program).play schedule).received <+: input)
    (hinput' : ((powerOn program).play schedule').received <+: input) :
    let a := (powerOn program).play schedule
    let b := (powerOn program).play schedule'
    (a.last = .ok .running → b.last = .ok .running → a.completed = b.completed →
      Agrees a.machine b.machine) ∧
    (a.last = .ok .halted → a.received <+: b.received → ∀ more : List HostAction,
      b.last = .ok .halted ∨ a.completed < b.completed + more.count .step →
        (b.play more).last = .ok .halted ∧ a.completed = (b.play more).completed ∧
          Agrees a.machine (b.play more).machine) ∧
    a.taken ++ a.machine.device.input = a.received := by
  intro a b
  have ha := follows_play program schedule
  have hb := follows_play program schedule'
  refine ⟨ha.agrees_of_running hb hinput hinput', fun hhalted hgiven more henough => ?_,
    taken_append_input program schedule⟩
  have hmore : (b.play more).Follows (powerOn program).machine :=
    play_preserves (fun _ action h => h.perform action) hb more
  have hgiven' : a.received <+: (b.play more).received :=
    hgiven.trans (received_prefix_play b more)
  have hhalts : (b.play more).last = .ok .halted := by
    rcases henough with hlast | henough
    · exact last_play_of_halted hlast ((hb []).of_halted hlast).1 more
    rcases ha.play_of_halts hhalted hb hgiven more with hlast | hcompleted
    · exact hlast
    · by_contra hlast
      have hle := (ha.not_starved hhalted hmore hlast hgiven').1
      rw [hcompleted] at hle
      exact absurd hle (Nat.not_le_of_lt henough)
  exact ⟨hhalts, ha.agrees_of_halted hmore hgiven' List.prefix_rfl hhalted hhalts⟩

/-- A byte that waits is read, and the machine goes on with the next instruction. -/
lemma step_of_getc {m : Machine Buffered} (running : m.halted = false)
    (hi : m.nextInstruction = some .getc) (hinput : m.device.input ≠ []) :
    (Machine.step m).result = .ok .running ∧ (Machine.step m).state.halted = false ∧
      (Machine.step m).state.core.memory = m.core.memory ∧
      (Machine.step m).state.core.ip = if m.core.jumped then m.core.ip else m.core.ip + 4 := by
  have hs : ¬ m.Starved := fun hs => hinput (Machine.starved_iff.mp hs).2
  have hready : (Device.poll m.device).1 = true := by simpa [Device.poll] using hinput
  obtain ⟨word, v, hword, hop, he⟩ := Machine.executeCurrent_of_nextInstruction hi
  rw [Instruction.execute_getc_of_ready (m := { m with core.ir := word }) hready] at he
  have hc : m.Completes := by
    rw [Machine.Completes, he]
    exact ⟨rfl, running⟩
  obtain ⟨hr, hstate⟩ := Machine.step_of_goes_on running hc (Machine.executeCurrent_of_getc hi hs).1
  have htarget : m.jumpTarget? = none := by
    rw [Machine.jumpTarget?, hword, Option.bind_some, hop]
    rfl
  have hplace := m.advanced_executeCurrent.1
  rw [htarget] at hplace
  refine ⟨hr, ?_, ?_, ?_⟩
  · rw [hstate]
    exact hc.2
  · rw [hstate, he]
    cases hj : m.core.jumped <;> simp [Machine.advanced, Core.incrementIp, hj]
  · rw [hstate]
    exact (Prod.mk.inj hplace).1

lemma step_of_halt {m : Machine Buffered} {code : Operand} (running : m.halted = false)
    (hi : m.nextInstruction = some (.halt code)) : (Machine.step m).result = .ok .halted := by
  obtain ⟨word, v, -, -, he⟩ := Machine.executeCurrent_of_nextInstruction hi
  rw [Instruction.execute_halt_apply] at he
  refine (Machine.step_of_not_completes running fun hc => ?_).1
  rw [Machine.Completes, he] at hc
  cases hc.2

/-- A program that reads a byte and halts with it. -/
def readAndHalt : List InstructionWord := [0x60010000, 0x01010000]

lemma nextWord_readAndHalt {m : Machine Buffered} {i : Nat}
    (hm : m.core.memory = (powerOn readAndHalt).machine.core.memory) (hi : i < readAndHalt.length)
    (hip : m.core.ip = BitVec.ofNat 64 (4 * i)) : m.nextWord = some readAndHalt[i] := by
  have hlength : readAndHalt.length = 2 := rfl
  exact Machine.nextWord_of_storeProgram hm hi (by omega) hip

lemma nextInstruction_of_first {m : Machine Buffered}
    (hm : m.core.memory = (powerOn readAndHalt).machine.core.memory) (hip : m.core.ip = 0) :
    m.nextInstruction = some .getc := by
  have hword := nextWord_readAndHalt (i := 0) hm (by decide) hip
  rw [Machine.nextInstruction, hword, Option.bind_some, Instruction.ofOpcode?_eq_getc_iff]
  decide

lemma nextInstruction_of_second {m : Machine Buffered}
    (hm : m.core.memory = (powerOn readAndHalt).machine.core.memory) (hip : m.core.ip = 4) :
    m.nextInstruction = some (.halt .register) := by
  have hword := nextWord_readAndHalt (i := 1) hm (by decide) hip
  rw [Machine.nextInstruction, hword, Option.bind_some, Instruction.ofOpcode?_eq_lookup]
  decide

lemma step_readAndHalt (b : Byte) :
    (powerOn readAndHalt).machine.Starved ∧
      (Machine.step ((powerOn readAndHalt).machine.fed [b])).result = .ok .running ∧
      (Machine.step (Machine.step ((powerOn readAndHalt).machine.fed [b])).state).result
        = .ok .halted := by
  have hgetc := nextInstruction_of_first (m := (powerOn readAndHalt).machine) rfl rfl
  obtain ⟨hr, hrunning, hmemory, hip⟩ :=
    step_of_getc (m := (powerOn readAndHalt).machine.fed [b]) rfl hgetc (List.cons_ne_nil b [])
  exact ⟨⟨hgetc, rfl⟩, hr, step_of_halt hrunning (nextInstruction_of_second hmemory hip)⟩

/-- A host that is early gives the byte before the program asks for it. -/
lemma play_early (b : Byte) :
    ((powerOn readAndHalt).play [.push [b], .step]).last = .ok .running ∧
      ((powerOn readAndHalt).play [.push [b], .step]).completed = 1 ∧
      ((powerOn readAndHalt).play [.push [b], .step, .step]).last = .ok .halted ∧
      ((powerOn readAndHalt).play [.push [b], .step, .step]).completed = 1 := by
  obtain ⟨-, hr, hh⟩ := step_readAndHalt b
  simp only [play_cons, play_nil, perform, hr, hh]
  exact ⟨trivial, rfl, trivial, rfl⟩

/-- A host that is late lets the program wait for it. -/
lemma play_late (b : Byte) :
    ((powerOn readAndHalt).play [.step, .push [b], .step]).last = .ok .running ∧
      ((powerOn readAndHalt).play [.step, .push [b], .step]).completed = 1 ∧
      ((powerOn readAndHalt).play [.step, .push [b]]).completed = 0 := by
  obtain ⟨hs, hr, -⟩ := step_readAndHalt b
  obtain ⟨word, v, -, -, hstep⟩ := Machine.step_of_starved rfl hs
  have hwaits : (Machine.step (powerOn readAndHalt).machine).state.fed [b]
      = ((powerOn readAndHalt).machine.fed [b]).waiting word := by
    rw [hstep]
    rfl
  have hagain := Machine.step_waiting (m := (powerOn readAndHalt).machine.fed [b]) rfl hs.1 word
  have hblocked : (Machine.step (powerOn readAndHalt).machine).result = .ok .blocked := by
    rw [hstep]
  simp only [play_cons, play_nil, perform, hwaits, hagain, hblocked, hr]
  exact ⟨trivial, rfl, rfl⟩

/-- Both hosts run the program to the same end. -/
theorem schedule_irrelevant_readAndHalt :
    Agrees ((powerOn readAndHalt).play [.step, .push [0x41], .step]).machine
        ((powerOn readAndHalt).play [.push [0x41], .step]).machine ∧
      (((powerOn readAndHalt).play [.step, .push [0x41]]).play [.step, .step]).last = .ok .halted ∧
      Agrees ((powerOn readAndHalt).play [.push [0x41], .step, .step]).machine
        (((powerOn readAndHalt).play [.step, .push [0x41]]).play [.step, .step]).machine := by
  obtain ⟨hearly, hcompleted, hhalted, hend⟩ := play_early 0x41
  obtain ⟨hlate, hcompleted', hstart⟩ := play_late 0x41
  obtain ⟨hagrees, -, -⟩ := schedule_irrelevant readAndHalt [0x41] [.step, .push [0x41], .step]
    [.push [0x41], .step] List.prefix_rfl List.prefix_rfl
  obtain ⟨-, hhalts, -⟩ := schedule_irrelevant readAndHalt [0x41] [.push [0x41], .step, .step]
    [.step, .push [0x41]] List.prefix_rfl List.prefix_rfl
  refine ⟨hagrees hlate hearly (hcompleted'.trans hcompleted.symm), ?_⟩
  have henough : 1 < 0 + [HostAction.step, .step].count .step := by decide
  rw [← hend, ← hstart] at henough
  have hgiven : [(0x41 : Byte)] <+: [0x41] := List.prefix_rfl
  obtain ⟨hhalted', -, hagrees'⟩ := hhalts hhalted hgiven [.step, .step] (.inr henough)
  exact ⟨hhalted', hagrees'⟩

end Session

end LectureMachine
