import LectureMachine.Proofs.Machine.Calls
import LectureMachine.Device.Buffered

/-!
# Reset

A reset forgets everything: the registers, the flags and the pages of the memory, the place in the
program and a jump just made, that the machine has halted or is blocked and why, the steps it has
taken, and, with a buffered device, the input and the output. Whatever the past of a machine was, a
host cannot tell it from one that was just switched on.
-/

namespace LectureMachine

variable {ε : Type}

/-! ### Requests after a reset -/

/-- What comes of a reset, whatever the machine was. -/
def Observers.resetReply (observers : Observers ε) : Reply Buffered ε where
  answer := .ok .done
  machine := .new {}
  deviceCalls := [.reset]
  log := observers.log Machine.resetActivity

namespace Observed

/-- A machine that is switched on with observers attached to it. -/
def switchedOn (observers : Observers ε) : Observed (Machine Buffered) ε := ⟨.new {}, observers⟩

lemma serve?_reset (patience : Nat) (future : List (Request Buffered ε))
    (o : Observed (Machine Buffered) ε) :
    o.serve? patience (.call .reset :: future) =
      ((switchedOn o.observers).serve? patience future).map fun (replies, last) =>
        (o.observers.resetReply :: replies, last) := by
  rw [serve?, serveBy?_call, Call.perform?, Machine.reset_apply]
  rfl

/-- What was asked before a reset decides which observers are attached, and nothing else of what
comes after it. -/
lemma serve?_append_reset (patience : Nat) (past future : List (Request Buffered ε))
    (o : Observed (Machine Buffered) ε) :
    o.serve? patience (past ++ .call .reset :: future) =
      (o.serve? patience past).bind fun (before, reached) =>
        ((switchedOn reached.observers).serve? patience future).map fun (after, last) =>
          (before ++ reached.observers.resetReply :: after, last) := by
  rw [serve?_append]
  congr 1
  funext ⟨before, reached⟩
  simp [serve?_reset, Function.comp_def]

/-- Whatever a machine was at first and whatever was asked of it since, after a reset the same comes
of all requests, for the host and for the observers, as if the machine had just been switched on and
the same observers attached to it. So a machine that is switched on, used, reset and used in the
same way again runs both times alike. -/
theorem reset_eq_switchedOn (patience : Nat) (past future : List (Request Buffered ε))
    (o : Observed (Machine Buffered) ε) (session : List (Call Buffered))
    (observers : Observers ε) :
    (o.serve? patience (past ++ .call .reset :: future) =
      (o.serve? patience past).bind fun (before, reached) =>
        ((switchedOn reached.observers).serve? patience future).map fun (after, last) =>
          (before ++ reached.observers.resetReply :: after, last)) ∧
    ((switchedOn observers).serve? patience
        (session.map .call ++ .call .reset :: session.map .call) =
      ((switchedOn observers).serve? patience (session.map .call)).map fun (replies, last) =>
        (replies ++ observers.resetReply :: replies, last)) := by
  constructor
  · exact serve?_append_reset patience past future o
  · rw [serve?_append_reset]
    cases h : (switchedOn observers).serve? patience (session.map .call) with
    | none => rfl
    | some result =>
      obtain ⟨replies, last⟩ := result
      have hsame : last.observers = observers := observers_of_serve? h
      simp [hsame, h]

end Observed

end LectureMachine
