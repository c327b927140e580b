import LectureMachine.Proofs.Machine.Blocking

/-!
# Runs with and without a limit

A limit is met just if every step up to it leaves the machine running, and then a second run goes on
as if there had been only one. A run that ends before its limit is the whole run: it ends in the
same way under every greater limit and without any. If it ends because the machine halts, a run that
does not mind waiting comes to the same end.
-/

namespace LectureMachine.Machine

open Transition

variable {δ : Type} [Device δ]

/-- The machine after a number of steps, however they end. -/
def afterSteps (m : Machine δ) (n : Nat) : Machine δ := (fun m => (step m).state)^[n] m

/-- Each of the next `n` steps leaves the machine running. -/
def KeepsRunning (m : Machine δ) (n : Nat) : Prop :=
  ∀ k < n, (step (m.afterSteps k)).result = .ok .running

lemma keepsRunning_zero (m : Machine δ) : m.KeepsRunning 0 := by
  intro k hk
  omega

lemma keepsRunning_succ_iff {m : Machine δ} {n : Nat} :
    m.KeepsRunning (n + 1) ↔
      (step m).result = .ok .running ∧ (step m).state.KeepsRunning n := by
  constructor
  · intro h
    exact ⟨h 0 n.succ_pos, fun k hk => h (k + 1) (Nat.succ_lt_succ hk)⟩
  · rintro ⟨hfirst, hrest⟩ k hk
    cases k with
    | zero => exact hfirst
    | succ k => exact hrest k (Nat.lt_of_succ_lt_succ hk)

/-! ### How a step ends -/

/-- A step completes an instruction, or it leaves the machine blocked or halted. -/
lemma step_ends (m : Machine δ) :
    ((step m).result = .ok .running ∧ (step m).state.steps = m.steps + 1) ∨
      (step m).result = .ok .blocked ∨
      ((step m).result = .ok .halted ∧ (step m).state.halted = true) := by
  cases running : m.halted with
  | true =>
    rw [step_of_halted running]
    exact .inr (.inr ⟨rfl, running⟩)
  | false =>
    by_cases hc : m.Completes
    · cases hb : (executeCurrent m).state.blocked with
      | true =>
        rw [step_of_held_up running hc hb]
        exact .inr (.inl rfl)
      | false =>
        obtain ⟨hr, hstate⟩ := step_of_goes_on running hc hb
        rw [hstate]
        exact .inl ⟨hr, m.advanced_executeCurrent.2⟩
    · exact .inr (.inr (step_of_not_completes running hc))

lemma steps_step_of_running {m : Machine δ} (h : (step m).result = .ok .running) :
    (step m).state.steps = m.steps + 1 := by
  rcases m.step_ends with ⟨-, hsteps⟩ | hr | ⟨hr, -⟩
  · exact hsteps
  · rw [hr] at h
    cases h
  · rw [hr] at h
    cases h

/-! ### The first step of a run -/

/-- A run by the result of its first step. -/
lemma runFor_succ_eq (n : Nat) (m : Machine δ) :
    runFor (n + 1) m =
      match (step m).result with
      | .ok .running => (runFor n (step m).state).after (step m).activity
      | .ok .blocked => ⟨.ok .blocked, (step m).state, (step m).activity⟩
      | .ok .halted => ⟨(step m).state.verdict.map .halted, (step m).state, (step m).activity⟩
      | .error f => ⟨.error f, (step m).state, (step m).activity⟩ := by
  rw [runFor_succ]
  rcases step m with ⟨f | status, m', done⟩
  · rfl
  · cases status <;> rfl

omit [Device δ] in
/-- To halt is not to reach a limit. -/
lemma map_halted_ne_stepLimit (verdict : Except Fault Byte) :
    verdict.map Stop.halted ≠ .ok .stepLimit := by
  cases verdict <;> nofun

omit [Device δ] in
lemma map_halted_injective : Function.Injective (Except.map Stop.halted (ε := Fault)) := by
  rintro (f | code) (g | code') h
  · cases h; rfl
  · cases h
  · cases h
  · cases h; rfl

/-! ### Limits -/

/-- The limit is what ends a run just if no step does. -/
lemma result_runFor_eq_stepLimit_iff {m : Machine δ} {n : Nat} :
    (runFor n m).result = .ok .stepLimit ↔ m.KeepsRunning n := by
  induction n generalizing m with
  | zero => exact iff_of_true rfl m.keepsRunning_zero
  | succ n ih =>
    rw [keepsRunning_succ_iff, ← ih]
    rcases m.step_ends with ⟨hr, -⟩ | hr | ⟨hr, -⟩
    · simp only [runFor_succ_eq, hr, Outcome.result_after, true_and]
    · simp only [runFor_succ_eq, hr]
      exact iff_of_false nofun nofun
    · simp only [runFor_succ_eq, hr]
      exact iff_of_false (map_halted_ne_stepLimit _) nofun

lemma steps_runFor {m : Machine δ} {n : Nat} (h : m.KeepsRunning n) :
    (runFor n m).state.steps = m.steps + n := by
  induction n generalizing m with
  | zero => rfl
  | succ n ih =>
    obtain ⟨hfirst, hrest⟩ := keepsRunning_succ_iff.mp h
    have hsteps := steps_step_of_running hfirst
    simp only [runFor_succ_eq, hfirst, Outcome.state_after, ih hrest]
    omega

/-- A run that has met its limit can be gone on with. -/
lemma runFor_add {m : Machine δ} {a : Nat} (h : m.KeepsRunning a) (b : Nat) :
    runFor (a + b) m = (runFor b (runFor a m).state).after (runFor a m).activity := by
  induction a generalizing m with
  | zero => rw [Nat.zero_add, runFor_zero, Outcome.after_nil]
  | succ a ih =>
    obtain ⟨hfirst, hrest⟩ := keepsRunning_succ_iff.mp h
    simp only [Nat.succ_add, runFor_succ_eq, hfirst, ih hrest, Outcome.after_after,
      Outcome.state_after, Outcome.activity_after]

/-- A run that has not met its limit would not have met a greater one. -/
lemma runFor_of_le {m : Machine δ} {a c : Nat} (h : (runFor a m).result ≠ .ok .stepLimit)
    (hle : a ≤ c) : runFor c m = runFor a m := by
  induction a generalizing m c with
  | zero => exact absurd rfl h
  | succ a ih =>
    obtain ⟨c, rfl⟩ := Nat.exists_eq_add_of_lt hle
    rcases m.step_ends with ⟨hr, -⟩ | hr | ⟨hr, -⟩
    · simp only [runFor_succ_eq, hr, Outcome.result_after] at h ⊢
      rw [ih h (Nat.le_add_right a c)]
    · simp only [runFor_succ_eq, hr]
    · simp only [runFor_succ_eq, hr]

/-! ### No limit -/

lemma runToStop?_of_ne_stepLimit {m : Machine δ} {n : Nat}
    (h : (runFor n m).result ≠ .ok .stepLimit) : runToStop? n m = some (runFor n m) := by
  rw [runToStop?, runToStopUnder?]
  split
  · rename_i hrun
    exact absurd (congrArg Outcome.result hrun) h
  · rfl

lemma runOnToHalt?_eq_map (watched : Bool) (done : List Activity) (n : Nat) (m : Machine δ) :
    runOnToHalt? watched done n m
      = (runToHaltUnder? watched n m).map (·.after done.reverse) := by
  induction n generalizing done m with
  | zero => cases h : m.halted <;> simp [runOnToHalt?, runToHaltUnder?, h]
  | succ n ih =>
    cases h : m.halted with
    | true => simp [runOnToHalt?, runToHaltUnder?, h]
    | false =>
      rcases hm : stepUnder watched m with ⟨result, m', more⟩
      simp [runOnToHalt?, runToHaltUnder?, h, hm, List.reverseAux_eq, ih (more.reverse ++ done),
        ih more.reverse, Function.comp_def]

lemma runToHaltUnder?_of_halted (watched : Bool) {m : Machine δ} (h : m.halted = true) (n : Nat) :
    runToHaltUnder? watched n m = some ⟨m.verdict, m, []⟩ := by
  cases n <;> simp [runToHaltUnder?, runOnToHalt?, h]

lemma runToHaltUnder?_succ (watched : Bool) {m : Machine δ} (h : m.halted = false) (n : Nat) :
    runToHaltUnder? watched (n + 1) m =
      (runToHaltUnder? watched n (stepUnder watched m).state).map
        (·.after (stepUnder watched m).activity) := by
  rcases hm : stepUnder watched m with ⟨result, m', done⟩
  simp [runToHaltUnder?, runOnToHalt?, h, hm, List.reverseAux_eq,
    runOnToHalt?_eq_map watched done.reverse]

lemma runToHalt?_of_halted {m : Machine δ} (h : m.halted = true) (n : Nat) :
    runToHalt? n m = some ⟨m.verdict, m, []⟩ :=
  runToHaltUnder?_of_halted true h n

lemma runToHalt?_succ {m : Machine δ} (h : m.halted = false) (n : Nat) :
    runToHalt? (n + 1) m = (runToHalt? n (step m).state).map (·.after (step m).activity) :=
  runToHaltUnder?_succ true h n

/-- A run that ends because the machine halts never had to wait. -/
lemma runToHalt?_of_runFor {m : Machine δ} {a n : Nat} {verdict : Except Fault Byte}
    (h : (runFor a m).result = verdict.map .halted) (hle : a ≤ n) :
    runToHalt? n m = some ⟨verdict, (runFor a m).state, (runFor a m).activity⟩ := by
  induction a generalizing m n with
  | zero => exact absurd h.symm (map_halted_ne_stepLimit verdict)
  | succ a ih =>
    obtain ⟨n, rfl⟩ := Nat.exists_eq_add_of_lt hle
    cases running : m.halted with
    | true =>
      simp only [runFor_succ_eq, step_of_halted running] at h ⊢
      rw [runToHalt?_of_halted running, map_halted_injective h]
    | false =>
      rw [runToHalt?_succ running]
      rcases m.step_ends with ⟨hr, -⟩ | hr | ⟨hr, hhalted⟩
      · simp only [runFor_succ_eq, hr, Outcome.result_after] at h ⊢
        rw [ih h (Nat.le_add_right a n)]
        rfl
      · simp only [runFor_succ_eq, hr] at h
        cases verdict <;> cases h
      · simp only [runFor_succ_eq, hr] at h ⊢
        rw [runToHalt?_of_halted hhalted, map_halted_injective h]
        simp

/-- A run meets its limit just if every step up to it leaves the machine running. Then as many
instructions were completed, and a second run goes on where the first one ended, as one run with
both limits does. If it does not meet the limit, all greater limits and no limit make no difference,
and if the machine has halted, neither does it to go on while the machine is blocked. What the
onlookers see is the same each time. -/
theorem runFor_agrees (m : Machine δ) (a : Nat) :
    ((runFor a m).result = .ok .stepLimit ↔ m.KeepsRunning a) ∧
      (m.KeepsRunning a →
        (runFor a m).state.steps = m.steps + a ∧
          ∀ b, runFor (a + b) m = (runFor b (runFor a m).state).after (runFor a m).activity) ∧
      ((runFor a m).result ≠ .ok .stepLimit →
        (∀ c ≥ a, runFor c m = runFor a m) ∧
          (∀ patience ≥ a, runToStop? patience m = some (runFor a m)) ∧
          ∀ verdict, (runFor a m).result = verdict.map .halted →
            ∀ patience ≥ a,
              runToHalt? patience m =
                some ⟨verdict, (runFor a m).state, (runFor a m).activity⟩) := by
  refine ⟨result_runFor_eq_stepLimit_iff, fun h => ⟨steps_runFor h, runFor_add h⟩, fun h => ?_⟩
  have hsame : ∀ c ≥ a, runFor c m = runFor a m := fun c hc => runFor_of_le h hc
  refine ⟨hsame, fun patience hp => ?_, fun verdict hv patience hp => runToHalt?_of_runFor hv hp⟩
  rw [← hsame patience hp] at h ⊢
  exact runToStop?_of_ne_stepLimit h

end LectureMachine.Machine
