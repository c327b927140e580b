import LectureMachine.Activity

/-!
# Transitions

A transition takes the state of a part of the machine to a new state. On the way it is active, and
it may end in a fault; then the state and the activity up to the fault are kept. Transitions are
done one after the other by the laws of a monad.
-/

namespace LectureMachine

variable {σ τ α β : Type}

/-! ### Outcomes -/

/-- How a transition ended. -/
structure Outcome (σ α : Type) where
  /-- The answer, or the fault that prevented it. -/
  result : Except Fault α
  /-- The state it left. -/
  state : σ
  /-- What was done on the way, in order. -/
  activity : List Activity

namespace Outcome

/-- The same outcome, with more done before it. -/
def after (done : List Activity) : Outcome σ α → Outcome σ α
  | ⟨result, state, activity⟩ => ⟨result, state, done ++ activity⟩

@[simp] theorem result_after (done : List Activity) (o : Outcome σ α) :
    (o.after done).result = o.result := rfl

@[simp] theorem state_after (done : List Activity) (o : Outcome σ α) :
    (o.after done).state = o.state := rfl

@[simp] theorem activity_after (done : List Activity) (o : Outcome σ α) :
    (o.after done).activity = done ++ o.activity := rfl

@[simp] theorem after_mk (done activity : List Activity) (result : Except Fault α) (state : σ) :
    (Outcome.mk result state activity).after done = ⟨result, state, done ++ activity⟩ := rfl

@[simp] theorem after_nil (o : Outcome σ α) : o.after [] = o := rfl

@[simp] theorem after_after (first second : List Activity) (o : Outcome σ α) :
    (o.after second).after first = o.after (first ++ second) := by
  simp [after]

end Outcome

/-! ### Transitions -/

/-- A change of a state `σ` that answers with an `α`. -/
def Transition (σ α : Type) : Type := σ → Outcome σ α

namespace Transition

/-- Goes on with `next` unless there was a fault. -/
def andThen (t : Transition σ α) (next : α → Transition σ β) : Transition σ β := fun s =>
  match t s with
  | ⟨.ok a, s, done⟩ => (next a s).after done
  | ⟨.error f, s, done⟩ => ⟨.error f, s, done⟩

instance : Monad (Transition σ) where
  pure a := fun s => ⟨.ok a, s, []⟩
  bind := andThen

instance : MonadStateOf σ (Transition σ) where
  get := fun s => ⟨.ok s, s, []⟩
  set s := fun _ => ⟨.ok (), s, []⟩
  modifyGet f := fun s => match f s with | (a, s) => ⟨.ok a, s, []⟩

/-- Ends in a fault. -/
def fault (f : Fault) : Transition σ α := fun s => ⟨.error f, s, []⟩

/-- Is seen doing `a`. -/
def perform (a : Activity) : Transition σ Unit := fun s => ⟨.ok (), s, [a]⟩

/-- Answers with a result found elsewhere. -/
def ofExcept (r : Except Fault α) : Transition σ α := fun s => ⟨r, s, []⟩

/-- Takes a fault as an answer. -/
def attempt (t : Transition σ α) : Transition σ (Except Fault α) := fun s =>
  match t s with
  | ⟨result, s, done⟩ => ⟨.ok result, s, done⟩

/-- Works on a part of the state; `part` takes the part out and says how to put it back. -/
def within (part : τ → σ × (σ → τ)) (t : Transition σ α) : Transition τ α := fun whole =>
  match part whole with
  | (s, back) =>
    match t s with
    | ⟨result, s, done⟩ => ⟨result, back s, done⟩

/-! ### What the parts of a transition do -/

@[simp] theorem pure_apply (a : α) (s : σ) : (pure a : Transition σ α) s = ⟨.ok a, s, []⟩ := rfl

@[simp] theorem fault_apply (f : Fault) (s : σ) :
    (fault f : Transition σ α) s = ⟨.error f, s, []⟩ := rfl

@[simp] theorem perform_apply (a : Activity) (s : σ) : perform a s = ⟨.ok (), s, [a]⟩ := rfl

@[simp] theorem ofExcept_apply (r : Except Fault α) (s : σ) : ofExcept r s = ⟨r, s, []⟩ := rfl

@[simp] theorem get_apply (s : σ) : (get : Transition σ σ) s = ⟨.ok s, s, []⟩ := rfl

@[simp] theorem set_apply (s s₀ : σ) : (set s : Transition σ PUnit) s₀ = ⟨.ok (), s, []⟩ := rfl

@[simp] theorem modify_apply (f : σ → σ) (s : σ) :
    (modify f : Transition σ PUnit) s = ⟨.ok (), f s, []⟩ := rfl

@[simp] theorem modifyGet_apply (f : σ → α × σ) (s : σ) :
    (modifyGet f : Transition σ α) s = ⟨.ok (f s).1, (f s).2, []⟩ := rfl

@[simp] theorem attempt_apply (t : Transition σ α) (s : σ) :
    t.attempt s = ⟨.ok (t s).result, (t s).state, (t s).activity⟩ := rfl

@[simp] theorem within_apply (part : τ → σ × (σ → τ)) (t : Transition σ α) (whole : τ) :
    t.within part whole =
      ⟨(t (part whole).1).result, (part whole).2 (t (part whole).1).state,
        (t (part whole).1).activity⟩ := rfl

/-! ### Doing one after the other -/

theorem bind_of_ok {t : Transition σ α} {s s' : σ} {a : α} {done : List Activity}
    (h : t s = ⟨.ok a, s', done⟩) (next : α → Transition σ β) :
    (t >>= next) s = (next a s').after done := by
  simp [bind, andThen, h]

theorem bind_of_error {t : Transition σ α} {s s' : σ} {f : Fault} {done : List Activity}
    (h : t s = ⟨.error f, s', done⟩) (next : α → Transition σ β) :
    (t >>= next) s = ⟨.error f, s', done⟩ := by
  simp [bind, andThen, h]

theorem bind_apply (t : Transition σ α) (next : α → Transition σ β) (s : σ) :
    (t >>= next) s =
      match t s with
      | ⟨.ok a, s, done⟩ => (next a s).after done
      | ⟨.error f, s, done⟩ => ⟨.error f, s, done⟩ := rfl

@[ext] theorem ext {t u : Transition σ α} (h : ∀ s, t s = u s) : t = u := funext h

private theorem id_map_eq (t : Transition σ α) : id <$> t = t := by
  ext s
  rcases h : t s with ⟨f | a, s', done⟩ <;>
    simp [Functor.map, andThen, h, Function.comp]

private theorem bind_assoc_eq {γ : Type} (t : Transition σ α) (next : α → Transition σ β)
    (last : β → Transition σ γ) :
    t >>= next >>= last = t >>= fun a => next a >>= last := by
  ext s
  rcases h : t s with ⟨f | a, s', done⟩
  · simp [bind_of_error h, bind_of_error (bind_of_error h next)]
  · rcases h' : next a s' with ⟨f | b, s'', more⟩ <;> simp [bind, andThen, h, h']

instance : LawfulMonad (Transition σ) :=
  .mk' _ id_map_eq (fun _ _ => rfl) bind_assoc_eq

@[simp] theorem map_apply (f : α → β) (t : Transition σ α) (s : σ) :
    (f <$> t) s = ⟨(t s).result.map f, (t s).state, (t s).activity⟩ := by
  rcases h : t s with ⟨e | a, s', done⟩ <;>
    simp [Functor.map, andThen, Except.map, Function.comp, h]

end Transition

end LectureMachine
