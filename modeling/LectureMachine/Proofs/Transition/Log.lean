import LectureMachine.Proofs.Transition.Frame
import LectureMachine.Proofs.Memory.Flat

/-!
# Logs

Whatever is done to the registers and to the memory can be written down and done again later, on
storage of which nothing is known but that it is all zeros. A transition is logged if this leads to
what the transition itself has left in the registers and in the memory, if each value that was read
is the one found in the storage at that point, and if nothing else that is stored had any influence.
-/

namespace LectureMachine

variable {σ ρ α β : Type}

/-! ### Storage -/

/-- A word for every register and a byte for every address. -/
@[ext] structure Storage where
  registers : Register → Word := 0
  bytes : FlatMemory := 0

namespace Storage

/-- What is stored after one entry of a log. -/
def after (s : Storage) : Activity → Storage
  | .register (.write r v) => { s with registers := Function.update s.registers r v }
  | .register .reset => { s with registers := 0 }
  | .memory (.write address width v) => { s with bytes := s.bytes.put address width v }
  | .memory (.load program) => { s with bytes := s.bytes.putProgram program }
  | .memory .reset => { s with bytes := 0 }
  | .register (.read ..) | .memory (.read ..) | .device _ | .machine _ => s

/-- What is stored after a whole log. -/
def replay (s : Storage) (log : List Activity) : Storage := log.foldl after s

/-- If the entry is about reading, it carries the value that is stored. -/
def Attests (s : Storage) : Activity → Prop
  | .register (.read r v) => v = s.registers r
  | .memory (.read address width v) => v.toNat = s.bytes.value address width
  | _ => True

/-- All entries about reading carry the value that is stored at their point of the log. -/
def AttestsAll (s : Storage) : List Activity → Prop
  | [] => True
  | a :: log => s.Attests a ∧ (s.after a).AttestsAll log

@[simp] lemma replay_nil (s : Storage) : s.replay [] = s := rfl

@[simp] lemma replay_cons (s : Storage) (a : Activity) (log : List Activity) :
    s.replay (a :: log) = (s.after a).replay log := rfl

@[simp] lemma replay_append (s : Storage) (log more : List Activity) :
    s.replay (log ++ more) = (s.replay log).replay more := List.foldl_append

@[simp] lemma attestsAll_nil (s : Storage) : s.AttestsAll [] := trivial

@[simp] lemma attestsAll_cons (s : Storage) (a : Activity) (log : List Activity) :
    s.AttestsAll (a :: log) ↔ s.Attests a ∧ (s.after a).AttestsAll log := Iff.rfl

@[simp] lemma attestsAll_append (s : Storage) (log more : List Activity) :
    s.AttestsAll (log ++ more) ↔ s.AttestsAll log ∧ (s.replay log).AttestsAll more := by
  induction log generalizing s with
  | nil => simp
  | cons a log ih => simp [ih, and_assoc]

/-- The log leads from one storage to the other, and what it says about reading is right. -/
structure Accounts (before : Storage) (log : List Activity) (after : Storage) : Prop where
  replays : before.replay log = after
  attests : before.AttestsAll log

lemma Accounts.nil (s : Storage) : s.Accounts [] s := ⟨rfl, trivial⟩

lemma Accounts.append {s s' s'' : Storage} {log more : List Activity} (h : s.Accounts log s')
    (h' : s'.Accounts more s'') : s.Accounts (log ++ more) s'' := by
  constructor
  · rw [replay_append, h.replays, h'.replays]
  · rw [attestsAll_append, h.replays]
    exact ⟨h.attests, h'.attests⟩

end Storage

/-! ### Logged transitions -/

namespace Transition

/-- What is done, all of it within `p`, is a full account of how the storage is used. The storage is
what `view` says, and `rest` is the remaining part of the state. -/
structure Logged (p : Activity → Prop) (view : σ → Storage) (rest : σ → ρ)
    (t : Transition σ α) : Prop where
  emits : t.Emits p
  accounts : ∀ s, (view s).Accounts (t s).activity (view (t s).state)
  /-- In another state that is like the first one but for the storage, the same is done if only the
  same values are found in the storage. -/
  determined : ∀ s s', rest s' = rest s → (view s').AttestsAll (t s).activity →
    (t s').result = (t s).result ∧ (t s').activity = (t s).activity ∧
      rest (t s').state = rest (t s).state

variable {p q : Activity → Prop} {view : σ → Storage} {rest : σ → ρ}

lemma Logged.mono {t : Transition σ α} (h : Logged p view rest t) (hpq : ∀ a, p a → q a) :
    Logged q view rest t :=
  ⟨fun s a ha => hpq a (h.emits s a ha), h.accounts, h.determined⟩

lemma logged_pure (a : α) : Logged p view rest (pure a) where
  emits := emits_of_activity_eq_nil fun _ => rfl
  accounts s := .nil (view s)
  determined _ _ hrest _ := ⟨rfl, rfl, hrest⟩

lemma logged_fault (f : Fault) : Logged p view rest (fault f : Transition σ α) where
  emits := emits_of_activity_eq_nil fun _ => rfl
  accounts s := .nil (view s)
  determined _ _ hrest _ := ⟨rfl, rfl, hrest⟩

/-- Nothing is done after a fault. -/
lemma logged_fault_bind (f : Fault) (next : α → Transition σ β) :
    Logged p view rest (fault f >>= next) :=
  logged_fault f

/-- The remaining part of the state may be changed without a trace. -/
lemma logged_modify {f : σ → σ} (hview : ∀ s, view (f s) = view s)
    (hrest : ∀ s s', rest s' = rest s → rest (f s') = rest (f s)) :
    Logged p view rest (modify f : Transition σ PUnit) where
  emits := emits_of_activity_eq_nil fun _ => rfl
  accounts s := by
    rw [modify_apply, hview]
    exact .nil (view s)
  determined s s' h _ := ⟨rfl, rfl, hrest s s' h⟩

/-- A look at the whole state is fine if what follows depends on the remaining part alone. -/
lemma logged_get_bind {next : σ → Transition σ α} (hnext : ∀ s, Logged p view rest (next s))
    (hrest : ∀ s s', rest s' = rest s → next s' = next s) :
    Logged p view rest (get >>= next) := by
  have happly : ∀ s, (get >>= next : Transition σ α) s = next s s := fun _ => rfl
  constructor
  · intro s a ha
    exact (hnext s).emits s a ha
  · intro s
    exact (hnext s).accounts s
  · intro s s' h hattests
    rw [happly, happly, hrest s s' h]
    exact (hnext s).determined s s' h hattests

lemma Logged.bind {t : Transition σ α} {next : α → Transition σ β} (ht : Logged p view rest t)
    (hnext : ∀ a, Logged p view rest (next a)) : Logged p view rest (t >>= next) := by
  constructor
  · exact ht.emits.bind fun a => (hnext a).emits
  · intro s
    have hs := ht.accounts s
    rcases h : t s with ⟨f | a, s₁, done⟩ <;> rw [h] at hs
    · rw [bind_of_error h]
      exact hs
    · rw [bind_of_ok h]
      exact hs.append ((hnext a).accounts s₁)
  · intro s s' hrest hattests
    have hs := ht.determined s s' hrest
    have hs' := ht.accounts s'
    rcases h : t s with ⟨f | a, s₁, done⟩ <;> rw [h] at hs
    · rw [bind_of_error h] at hattests ⊢
      obtain ⟨hresult, hdone, hrest₁⟩ := hs hattests
      rcases h' : t s' with ⟨result', s₁', done'⟩
      rw [h'] at hresult hdone hrest₁
      obtain rfl : result' = .error f := hresult
      rw [bind_of_error h']
      exact ⟨rfl, hdone, hrest₁⟩
    · rw [bind_of_ok h] at hattests ⊢
      rw [Outcome.activity_after, Storage.attestsAll_append] at hattests
      obtain ⟨hfirst, hthen⟩ := hattests
      obtain ⟨hresult, hdone, hrest₁⟩ := hs hfirst
      rcases h' : t s' with ⟨result', s₁', done'⟩
      rw [h'] at hresult hdone hrest₁ hs'
      obtain rfl : result' = .ok a := hresult
      obtain rfl : done' = done := hdone
      rw [bind_of_ok h', Outcome.result_after, Outcome.activity_after, Outcome.state_after]
      -- the log so far leads the second storage to where the second run really is
      rw [hs'.replays] at hthen
      obtain ⟨hresult₂, hdone₂, hrest₂⟩ := (hnext a).determined s₁ s₁' hrest₁ hthen
      exact ⟨hresult₂, congrArg (done' ++ ·) hdone₂, hrest₂⟩

lemma Logged.ite {c : Prop} [Decidable c] {t u : Transition σ α} (ht : Logged p view rest t)
    (hu : Logged p view rest u) : Logged p view rest (if c then t else u) := by
  split
  · exact ht
  · exact hu

end Transition

end LectureMachine
