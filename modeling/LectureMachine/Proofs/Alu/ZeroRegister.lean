import Mathlib.Tactic.SplitIfs
import LectureMachine.Proofs.Alu.Results

/-!
# The zero register of the arithmetic unit

Nothing keeps register 0 from holding a number but that every way to write a register guards it. So
it holds zero whatever is asked of the arithmetic unit, and onlookers are never shown anything else.
The flags do not know of this: they are those of the result, whether it is kept or lost.
-/

namespace LectureMachine

open Transition

/-! ### Wiring -/

/-- If this is about register 0, then its value is zero. -/
def RegisterEvent.IsWired : RegisterEvent → Prop
  | .read r v | .write r v => r = 0 → v = 0
  | .reset => True

namespace Alu

lemma peek_empty (r : Register) : ({} : Alu).peek r = 0 := by
  simp [peek]

/-- The host cannot write to register 0 either. -/
lemma peek_zero_poke (alu : Alu) (r : Register) (v : Word) :
    (alu.poke r v).peek 0 = alu.peek 0 := by
  rw [poke]
  split_ifs with h
  · rfl
  · have hval : r.val ≠ 0 := fun hval => h (Fin.ext hval)
    simp [peek, hval]

/-- If register 0 holds zero, then it still does so afterwards, and no other value was shown. -/
structure Wired {α : Type} (t : Transition Alu α) : Prop where
  holds : ∀ alu, alu.peek 0 = 0 → (t alu).state.peek 0 = 0
  shows : ∀ alu, alu.peek 0 = 0 → ∀ e, .register e ∈ (t alu).activity → e.IsWired

variable {α β : Type}

lemma wired_of_silent {t : Transition Alu α}
    (hholds : ∀ alu, alu.peek 0 = 0 → (t alu).state.peek 0 = 0)
    (hsilent : ∀ alu, (t alu).activity = []) : Wired t := by
  refine ⟨hholds, fun alu _ e he => ?_⟩
  rw [hsilent] at he
  cases he

lemma wired_pure (a : α) : Wired (pure a) := wired_of_silent (fun _ h => h) fun _ => rfl

lemma wired_fault (f : Fault) : Wired (fault f : Transition Alu α) :=
  wired_of_silent (fun _ h => h) fun _ => rfl

lemma wired_fault_bind (f : Fault) (next : β → Transition Alu α) : Wired (fault f >>= next) :=
  wired_of_silent (fun _ h => h) fun _ => rfl

lemma wired_mark (f : Flags → Flags) : Wired (mark f) :=
  wired_of_silent (fun _ h => h) fun _ => rfl

lemma wired_reset : Wired reset := by
  refine ⟨fun _ _ => peek_empty 0, fun alu _ e he => ?_⟩
  obtain rfl := Activity.register.inj (List.mem_singleton.mp he)
  trivial

lemma wired_poke (r : Register) (v : Word) : Wired (modify fun alu => alu.poke r v) :=
  wired_of_silent (fun alu h => (alu.peek_zero_poke r v).trans h) fun _ => rfl

lemma Wired.bind {t : Transition Alu α} {next : α → Transition Alu β} (ht : Wired t)
    (hnext : ∀ a, Wired (next a)) : Wired (t >>= next) := by
  constructor
  · intro alu h
    have hstate := ht.holds alu h
    rw [bind_apply]
    rcases hrun : t alu with ⟨f | a, alu', done⟩ <;> rw [hrun] at hstate
    · exact hstate
    · exact (hnext a).holds alu' hstate
  · intro alu h e he
    have hstate := ht.holds alu h
    have hshows := ht.shows alu h e
    rw [bind_apply] at he
    rcases hrun : t alu with ⟨f | a, alu', done⟩ <;> rw [hrun] at hstate hshows he
    · exact hshows he
    · rw [Outcome.activity_after, List.mem_append] at he
      exact he.elim hshows ((hnext a).shows alu' hstate e)

lemma Wired.ite {c : Prop} [Decidable c] {t u : Transition Alu α} (ht : Wired t) (hu : Wired u) :
    Wired (if c then t else u) := by
  split
  · exact ht
  · exact hu

lemma Wired.attempt {t : Transition Alu α} (ht : Wired t) : Wired t.attempt :=
  ⟨ht.holds, ht.shows⟩

/-! ### Access -/

lemma wired_read (r : Register) : Wired (read r) := by
  refine ⟨fun _ h => h, fun alu h e he => ?_⟩
  rw [read_apply, List.mem_singleton] at he
  obtain rfl := Activity.register.inj he
  rintro rfl
  exact h

/-- Register 0 takes nothing but zero. -/
lemma wired_write (r : Register) (v : Word) : Wired (write r v) := by
  constructor
  · intro alu h
    rw [state_write, Results.peek_carriedOut, Results.value_of_writes_eq rfl, if_pos rfl]
    by_cases hr : 0 = r
    · exact if_pos hr
    · rw [if_neg hr]
      exact h
  · intro alu h e he
    rw [write_apply, List.mem_singleton] at he
    obtain rfl := Activity.register.inj he
    intro hr
    exact if_pos hr

lemma wired_load (r : Register) (v : Word) : Wired (load r v) :=
  (wired_write r v).bind fun _ => wired_mark _

lemma wired_following (r : Register) (n : Nat) : Wired (following r n) := by
  rw [following]
  cases r.after? n with
  | some r' => exact wired_pure r'
  | none => exact wired_fault _

end Alu

/-! ### Operations -/

/-- What the arithmetic unit can compute, with the operands and the place for the result. -/
inductive AluOperation
  | add (x y : Word) (r : Register)
  | subtract (x y : Word) (r : Register)
  | multiply (x y : Word) (r : Register)
  | divideUnsigned (divisor : Word) (dividend r : Register)
  | divideSigned (divisor dividend : Word) (r : Register)
  | shiftLeft (amount v : Word) (r : Register)
  | shiftRight (amount v : Word) (r : Register)
  | shiftRightSigned (amount v : Word) (r : Register)
  | bitAnd (field : OperandField)
  | bitOr (field : OperandField)
  | bitNot (field : OperandField)
  | loadUnsigned (field : OperandField)
  | loadSigned (field : OperandField)
  | loadShifted (field : OperandField)
  deriving DecidableEq, Repr

namespace AluOperation

open Alu (wired_pure wired_fault_bind wired_mark wired_read wired_write wired_load wired_following)

/-- Carries out an operation. -/
def perform : AluOperation → Transition Alu Unit
  | add x y r => Alu.add x y r
  | subtract x y r => Alu.subtract x y r
  | multiply x y r => Alu.multiply x y r
  | divideUnsigned divisor dividend r => Alu.divideUnsigned divisor dividend r
  | divideSigned divisor dividend r => Alu.divideSigned divisor dividend r
  | shiftLeft amount v r => Alu.shiftLeft amount v r
  | shiftRight amount v r => Alu.shiftRight amount v r
  | shiftRightSigned amount v r => Alu.shiftRightSigned amount v r
  | bitAnd field => Alu.bitAnd field
  | bitOr field => Alu.bitOr field
  | bitNot field => Alu.bitNot field
  | loadUnsigned field => Alu.loadUnsigned field
  | loadSigned field => Alu.loadSigned field
  | loadShifted field => Alu.loadShifted field

lemma wired_perform (o : AluOperation) : Alu.Wired o.perform := by
  cases o with
  | add x y r | subtract x y r => exact (wired_write _ _).bind fun _ => wired_mark _
  | multiply x y r | shiftLeft amount v r =>
    exact (wired_write _ _).bind fun _ => (wired_mark _).ite (wired_pure _)
  | shiftRight amount v r | shiftRightSigned amount v r => exact wired_write _ _
  | loadUnsigned field | loadSigned field => exact wired_load _ _
  | bitNot field | loadShifted field => exact (wired_read _).bind fun _ => wired_load _ _
  | bitAnd field | bitOr field =>
    exact (wired_read _).bind fun _ => (wired_read _).bind fun _ => wired_load _ _
  | divideUnsigned divisor dividend r =>
    apply (wired_read _).bind
    intro low
    apply (wired_following _ _).bind
    intro next
    apply (wired_read _).bind
    intro high
    apply (wired_following _ _).bind
    intro quotientHigh
    apply (wired_following _ _).bind
    intro remainder
    split
    · exact wired_fault_bind _ _
    · apply (wired_write _ _).bind
      intro _
      exact (wired_write _ _).bind fun _ => wired_write _ _
  | divideSigned divisor dividend r =>
    apply (wired_following _ _).bind
    intro remainder
    split
    · exact wired_fault_bind _ _
    · exact (wired_write _ _).bind fun _ => wired_write _ _

/-- The same operation on the same operands, but for the place that the result goes to. -/
inductive Redirected (alu : Alu) : AluOperation → AluOperation → Prop
  | add (x y : Word) (r r' : Register) : Redirected alu (add x y r) (add x y r')
  | subtract (x y : Word) (r r' : Register) : Redirected alu (subtract x y r) (subtract x y r')
  | multiply (x y : Word) (r r' : Register) : Redirected alu (multiply x y r) (multiply x y r')
  | shiftLeft (amount v : Word) (r r' : Register) :
    Redirected alu (shiftLeft amount v r) (shiftLeft amount v r')
  | shiftRight (amount v : Word) (r r' : Register) :
    Redirected alu (shiftRight amount v r) (shiftRight amount v r')
  | shiftRightSigned (amount v : Word) (r r' : Register) :
    Redirected alu (shiftRightSigned amount v r) (shiftRightSigned amount v r')
  | bitAnd {field field' : OperandField} (hx : field.rx = field'.rx) (hy : field.ry = field'.ry) :
    Redirected alu (bitAnd field) (bitAnd field')
  | bitOr {field field' : OperandField} (hx : field.rx = field'.rx) (hy : field.ry = field'.ry) :
    Redirected alu (bitOr field) (bitOr field')
  | bitNot {field field' : OperandField} (hx : field.rx = field'.rx) :
    Redirected alu (bitNot field) (bitNot field')
  | loadUnsigned {field field' : OperandField} (h : field.uxy = field'.uxy) :
    Redirected alu (loadUnsigned field) (loadUnsigned field')
  | loadSigned {field field' : OperandField} (h : field.sxy = field'.sxy) :
    Redirected alu (loadSigned field) (loadSigned field')
  /-- The place is an operand, too. -/
  | loadShifted {field field' : OperandField} (h : field.uxy = field'.uxy)
    (hz : alu.peek field.rz = alu.peek field'.rz) :
    Redirected alu (loadShifted field) (loadShifted field')

/-- The flags are about the result, wherever it goes. -/
lemma Redirected.flags_eq {alu : Alu} {o o' : AluOperation} (h : Redirected alu o o') :
    (o.perform alu).state.flags = (o'.perform alu).state.flags := by
  cases h with
  | add x y r r' => rfl
  | subtract x y r r' => rfl
  | multiply x y r r' => rw [perform, perform, Alu.state_multiply, Alu.state_multiply]; rfl
  | shiftLeft amount v r r' =>
    rw [perform, perform, Alu.state_shiftLeft, Alu.state_shiftLeft]
    rfl
  | shiftRight amount v r r' => rfl
  | shiftRightSigned amount v r r' => rfl
  | bitAnd hx hy => simp [perform, Alu.bitAnd, Alu.load, bind_apply, hx, hy]
  | bitOr hx hy => simp [perform, Alu.bitOr, Alu.load, bind_apply, hx, hy]
  | bitNot hx => simp [perform, Alu.bitNot, Alu.load, bind_apply, hx]
  | loadUnsigned h => simp [perform, Alu.loadUnsigned, Alu.load, bind_apply, h]
  | loadSigned h => simp [perform, Alu.loadSigned, Alu.load, bind_apply, h]
  | loadShifted h hz => simp [perform, Alu.loadShifted, Alu.load, bind_apply, h, hz]

end AluOperation

/-! ### Requests -/

/-- What can be asked of the arithmetic unit. The host, which goes unseen, peeks and pokes. -/
inductive AluRequest
  | read (r : Register)
  | write (r : Register) (v : Word)
  | peek (r : Register)
  | poke (r : Register) (v : Word)
  | operate (o : AluOperation)
  | reset
  deriving DecidableEq, Repr

namespace AluRequest

/-- Does what is asked. The answer to reading and peeking is a value. -/
def perform : AluRequest → Transition Alu (Option Word)
  | read r => do
    let v ← Alu.read r
    return some v
  | write r v => do
    Alu.write r v
    return none
  | peek r => do
    return some ((← get).peek r)
  | poke r v => do
    modify fun alu => alu.poke r v
    return none
  | operate o => do
    o.perform
    return none
  | reset => do
    Alu.reset
    return none

/-- Does all that is asked, one after the other; a request that ends in a fault is passed over. -/
def performAll (requests : List AluRequest) :
    Transition Alu (List (Except Fault (Option Word))) :=
  requests.mapM fun request => request.perform.attempt

lemma wired_perform (request : AluRequest) : Alu.Wired request.perform := by
  cases request with
  | read r => exact (Alu.wired_read r).bind fun _ => Alu.wired_pure _
  | write r v => exact (Alu.wired_write r v).bind fun _ => Alu.wired_pure _
  | peek r => exact Alu.wired_of_silent (fun _ h => h) fun _ => rfl
  | poke r v => exact (Alu.wired_poke r v).bind fun _ => Alu.wired_pure _
  | operate o => exact o.wired_perform.bind fun _ => Alu.wired_pure _
  | reset => exact Alu.wired_reset.bind fun _ => Alu.wired_pure _

lemma wired_performAll (requests : List AluRequest) : Alu.Wired (performAll requests) := by
  induction requests with
  | nil => exact Alu.wired_pure _
  | cons request requests ih =>
    rw [performAll, List.mapM_cons]
    apply request.wired_perform.attempt.bind
    intro answer
    exact ih.bind fun _ => Alu.wired_pure _

/-- Whatever is asked of the arithmetic unit, register 0 holds zero, reads as zero and is never seen
with any other value. The flags after an operation do not depend on where its result goes, and that
may be register 0. -/
theorem zero_register_wired (requests : List AluRequest) :
    ((performAll requests {}).state.peek 0 = 0 ∧
        (Alu.read 0 (performAll requests {}).state).result = .ok 0 ∧
        ∀ e, .register e ∈ (performAll requests {}).activity → e.IsWired) ∧
      ∀ alu o o', AluOperation.Redirected alu o o' →
        (o.perform alu).state.flags = (o'.perform alu).state.flags := by
  have hwired := wired_performAll requests
  have hzero := hwired.holds {} (Alu.peek_empty 0)
  refine ⟨⟨hzero, ?_, hwired.shows {} (Alu.peek_empty 0)⟩, fun alu o o' h => h.flags_eq⟩
  rw [Alu.read_apply, hzero]

/-- This is how numbers are compared: the difference is lost, and the flags tell. -/
theorem zero_register_wired_comparison :
    (performAll [.write 0 1, .poke 0 5, .operate (.subtract 5 5 0)] {}).state.peek 0 = 0 ∧
      AluOperation.Redirected {} (.subtract 5 5 0) (.subtract 5 5 7) ∧
      ((AluOperation.subtract 5 5 0).perform {}).state.flags
        = ((AluOperation.subtract 5 5 7).perform {}).state.flags ∧
      ((AluOperation.subtract 5 5 0).perform {}).state.flags = { zero := true } := by
  have hredirected : AluOperation.Redirected {} (.subtract 5 5 0) (.subtract 5 5 7) := .subtract ..
  refine ⟨(zero_register_wired _).1.1, hredirected, ?_, by decide⟩
  exact (zero_register_wired []).2 {} _ _ hredirected

end AluRequest

end LectureMachine
