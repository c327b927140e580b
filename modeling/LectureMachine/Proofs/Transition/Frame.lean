import Mathlib.Tactic.Lemma
import LectureMachine.Transition

/-!
# What a transition leaves alone

A transition keeps a feature of the state if the feature is the same before and after, whatever the
result. Three kinds of transitions make up all the others: those that only look, those that run to
their end whatever they find, and those that check first, so that a fault leaves the state as it
was. To look and then to check first is to check first; this is how an instruction comes to do
nothing at all when it faults.
-/

namespace LectureMachine.Transition

variable {σ τ α β γ : Type}

/-- The feature `g` of the state stays the same. -/
def Keeps (g : σ → γ) (t : Transition σ α) : Prop := ∀ s, g (t s).state = g s

/-- Nothing is done but what `p` says. -/
def Emits (p : Activity → Prop) (t : Transition σ α) : Prop := ∀ s, ∀ a ∈ (t s).activity, p a

/-- The state stays as it is. -/
structure Looks (p : Activity → Prop) (t : Transition σ α) : Prop where
  keeps : t.Keeps id
  emits : t.Emits p

/-- There is always an answer. -/
structure Runs (p : Activity → Prop) (t : Transition σ α) : Prop where
  succeeds : ∀ s, ∃ a, (t s).result = .ok a
  emits : t.Emits p

/-- A fault leaves the state as it was. -/
structure ChecksFirst (p : Activity → Prop) (t : Transition σ α) : Prop where
  precise : ∀ s f, (t s).result = .error f → (t s).state = s
  emits : t.Emits p

/-! ### Keeping a feature -/

section Keeps

variable {g : σ → γ}

lemma Keeps.bind {t : Transition σ α} {next : α → Transition σ β} (ht : Keeps g t)
    (hnext : ∀ a, Keeps g (next a)) : Keeps g (t >>= next) := by
  intro s
  have hs := ht s
  rw [bind_apply]
  rcases h : t s with ⟨f | a, s', done⟩ <;> rw [h] at hs
  · exact hs
  · exact (hnext a s').trans hs

/-- What lies outside the part that is worked on stays the same. -/
lemma keeps_within {g : τ → γ} {part : τ → σ × (σ → τ)}
    (h : ∀ whole s, g ((part whole).2 s) = g whole) (t : Transition σ α) :
    Keeps g (t.within part) := fun whole => h whole _

end Keeps

/-! ### What is done -/

section Emits

variable {p : Activity → Prop}

lemma emits_of_activity_eq_nil {t : Transition σ α} (h : ∀ s, (t s).activity = []) :
    Emits p t := by
  intro s a ha
  rw [h] at ha
  cases ha

lemma emits_perform {a : Activity} (h : p a) : Emits p (perform a : Transition σ Unit) := by
  intro s b hb
  obtain rfl : b = a := by simpa using hb
  exact h

lemma Emits.bind {t : Transition σ α} {next : α → Transition σ β} (ht : Emits p t)
    (hnext : ∀ a, Emits p (next a)) : Emits p (t >>= next) := by
  intro s a ha
  have hs := ht s
  rw [bind_apply] at ha
  rcases h : t s with ⟨f | b, s', done⟩ <;> rw [h] at ha hs
  · exact hs a ha
  · rw [Outcome.activity_after, List.mem_append] at ha
    exact ha.elim (hs a) (hnext b s' a)

lemma Emits.within {t : Transition σ α} (h : Emits p t) (part : τ → σ × (σ → τ)) :
    Emits p (t.within part) := fun whole => h (part whole).1

end Emits

/-! ### Looking -/

section Looks

variable {p : Activity → Prop}

lemma looks_pure (a : α) : Looks p (pure a : Transition σ α) :=
  ⟨fun _ => rfl, emits_of_activity_eq_nil fun _ => rfl⟩

lemma looks_fault (f : Fault) : Looks p (fault f : Transition σ α) :=
  ⟨fun _ => rfl, emits_of_activity_eq_nil fun _ => rfl⟩

/-- Nothing is done after a fault. -/
lemma looks_fault_bind (f : Fault) (next : α → Transition σ β) : Looks p (fault f >>= next) :=
  ⟨fun _ => rfl, emits_of_activity_eq_nil fun _ => rfl⟩

lemma looks_perform {a : Activity} (h : p a) : Looks p (perform a : Transition σ Unit) :=
  ⟨fun _ => rfl, emits_perform h⟩

lemma looks_get : Looks p (get : Transition σ σ) :=
  ⟨fun _ => rfl, emits_of_activity_eq_nil fun _ => rfl⟩

lemma looks_ofExcept (r : Except Fault α) : Looks p (ofExcept r : Transition σ α) :=
  ⟨fun _ => rfl, emits_of_activity_eq_nil fun _ => rfl⟩

lemma Looks.bind {t : Transition σ α} {next : α → Transition σ β} (ht : Looks p t)
    (hnext : ∀ a, Looks p (next a)) : Looks p (t >>= next) :=
  ⟨ht.keeps.bind fun a => (hnext a).keeps, ht.emits.bind fun a => (hnext a).emits⟩

/-- Looking at a part is looking at the whole. -/
lemma Looks.within {t : Transition σ α} (ht : Looks p t) {part : τ → σ × (σ → τ)}
    (h : ∀ whole, (part whole).2 (part whole).1 = whole) : Looks p (t.within part) := by
  refine ⟨fun whole => ?_, ht.emits.within part⟩
  have hs : (t (part whole).1).state = (part whole).1 := ht.keeps _
  rw [within_apply, hs]
  exact h whole

end Looks

/-! ### Running to the end -/

section Runs

variable {p : Activity → Prop}

lemma runs_pure (a : α) : Runs p (pure a : Transition σ α) :=
  ⟨fun _ => ⟨a, rfl⟩, emits_of_activity_eq_nil fun _ => rfl⟩

lemma runs_perform {a : Activity} (h : p a) : Runs p (perform a : Transition σ Unit) :=
  ⟨fun _ => ⟨(), rfl⟩, emits_perform h⟩

lemma runs_get : Runs p (get : Transition σ σ) :=
  ⟨fun s => ⟨s, rfl⟩, emits_of_activity_eq_nil fun _ => rfl⟩

lemma runs_modify (f : σ → σ) : Runs p (modify f : Transition σ PUnit) :=
  ⟨fun _ => ⟨_, rfl⟩, emits_of_activity_eq_nil fun _ => rfl⟩

lemma Runs.bind {t : Transition σ α} {next : α → Transition σ β} (ht : Runs p t)
    (hnext : ∀ a, Runs p (next a)) : Runs p (t >>= next) := by
  refine ⟨fun s => ?_, ht.emits.bind fun a => (hnext a).emits⟩
  obtain ⟨a, ha⟩ := ht.succeeds s
  rcases h : t s with ⟨result, s', done⟩
  obtain rfl : result = .ok a := by rw [← ha, h]
  rw [bind_of_ok h]
  exact (hnext a).succeeds s'

lemma Runs.ite {c : Prop} [Decidable c] {t u : Transition σ α} (ht : Runs p t) (hu : Runs p u) :
    Runs p (if c then t else u) := by
  split
  · exact ht
  · exact hu

lemma Runs.within {t : Transition σ α} (ht : Runs p t) (part : τ → σ × (σ → τ)) :
    Runs p (t.within part) :=
  ⟨fun whole => ht.succeeds (part whole).1, ht.emits.within part⟩

end Runs

/-! ### Checking first -/

section ChecksFirst

variable {p : Activity → Prop}

lemma Looks.checksFirst {t : Transition σ α} (h : Looks p t) : ChecksFirst p t :=
  ⟨fun s _ _ => h.keeps s, h.emits⟩

lemma Runs.checksFirst {t : Transition σ α} (h : Runs p t) : ChecksFirst p t := by
  refine ⟨fun s f hf => ?_, h.emits⟩
  obtain ⟨a, ha⟩ := h.succeeds s
  rw [ha] at hf
  cases hf

/-- What only looks may come before what checks first. -/
lemma Looks.bind_checksFirst {t : Transition σ α} {next : α → Transition σ β} (ht : Looks p t)
    (hnext : ∀ a, ChecksFirst p (next a)) : ChecksFirst p (t >>= next) := by
  refine ⟨fun s f hf => ?_, ht.emits.bind fun a => (hnext a).emits⟩
  have hs := ht.keeps s
  rw [bind_apply] at hf ⊢
  rcases h : t s with ⟨f | a, s', done⟩ <;> rw [h] at hs hf
  · exact hs
  · obtain rfl : s' = s := hs
    exact (hnext a).precise s' f hf

/-- Putting the part back as it was leaves the whole as it was. -/
lemma ChecksFirst.within {t : Transition σ α} (ht : ChecksFirst p t) {part : τ → σ × (σ → τ)}
    (h : ∀ whole, (part whole).2 (part whole).1 = whole) : ChecksFirst p (t.within part) := by
  refine ⟨fun whole f hf => ?_, ht.emits.within part⟩
  rw [within_apply] at hf ⊢
  rw [ht.precise _ f hf, h]

end ChecksFirst

end LectureMachine.Transition
