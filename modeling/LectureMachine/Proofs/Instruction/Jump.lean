import LectureMachine.Proofs.Instruction.Shape

/-!
# Where instructions go on

A jump sets the instruction pointer and marks it as set; all other instructions leave both alone.
So the address of the instruction that comes next can be told from the core before the instruction
is carried out.
-/

namespace LectureMachine

open Transition

variable {α : Type}

/-! ### The place in the program -/

namespace Core

/-- The instruction pointer, and whether a jump has set it. -/
def place (core : Core) : Word × Bool := (core.ip, core.jumped)

/-- The place after a jump to `target`, or after an instruction that makes none. -/
def placeAfter (core : Core) : Option Word → Word × Bool
  | some target => (target, true)
  | none => core.place

lemma keeps_place_onAlu (t : Transition Alu α) : Keeps place (onAlu t) :=
  keeps_within (fun _ _ => rfl) t

lemma keeps_place_onMemory (t : Transition Memory α) : Keeps place (onMemory t) :=
  keeps_within (fun _ _ => rfl) t

lemma keeps_place_fetch (address : Word) (width : Nat) (signed : Bool) (r : Register) :
    Keeps place (fetch address width signed r) :=
  (keeps_place_onMemory _).bind fun _ => keeps_place_onAlu _

lemma keeps_place_fetchScaled (field : OperandField) (width scale : Nat) (signed : Bool) :
    Keeps place (fetchScaled field width scale signed) :=
  (keeps_place_onAlu _).bind fun _ => (keeps_place_onAlu _).bind fun _ => keeps_place_fetch _ _ _ _

lemma keeps_place_fetchDisplaced (field : OperandField) (width : Nat) (signed : Bool) :
    Keeps place (fetchDisplaced field width signed) :=
  (keeps_place_onAlu _).bind fun _ => keeps_place_fetch _ _ _ _

lemma keeps_place_storeScaled (field : OperandField) (width scale : Nat) :
    Keeps place (storeScaled field width scale) :=
  (keeps_place_onAlu _).bind fun _ => (keeps_place_onAlu _).bind fun _ =>
    (keeps_place_onAlu _).bind fun _ => keeps_place_onMemory _

lemma keeps_place_storeDisplaced (field : OperandField) (width : Nat) :
    Keeps place (storeDisplaced field width) :=
  (keeps_place_onAlu _).bind fun _ => (keeps_place_onAlu _).bind fun _ => keeps_place_onMemory _

/-- To go on is to go to the target of the jump that was made, or to the next instruction; a mark
that was left from before is taken for a jump. -/
lemma place_incrementIp {before after : Core} {target? : Option Word}
    (h : after.place = before.placeAfter target?) :
    (incrementIp after).state.place =
      (target?.getD (if before.jumped then before.ip else before.ip + 4), false) := by
  rcases after with ⟨alu, memory, ir, ip, jumped⟩
  cases target? with
  | some target =>
    obtain ⟨rfl, rfl⟩ : ip = target ∧ jumped = true := Prod.mk.inj h
    rfl
  | none =>
    obtain ⟨rfl, rfl⟩ : ip = before.ip ∧ jumped = before.jumped := Prod.mk.inj h
    cases hj : before.jumped <;> simp [incrementIp, place]

end Core

/-! ### Targets -/

namespace Instruction

/-- Where an operation jumps to, if it makes a jump. An absolute jump reads X only after it has left
the return address in Y, which matters if both are the same register. -/
def target? (i : Instruction) (field : OperandField) (core : Core) : Option Word :=
  match i with
  | .jumpAbsolute => some ((Alu.write field.ry (core.ip + 4) core.alu).state.peek field.rx)
  | .jumpRelative c => if core.holds c then some (core.ip + (field.sxyz <<< 2)) else none
  | _ => none

variable {δ : Type} [Device δ]

/-- What an operation does to the place in the program. -/
lemma place_execute (i : Instruction) (field : OperandField) (m : Machine δ) :
    (i.execute field m).state.core.place = m.core.placeAfter (i.target? field m.core) := by
  cases i with
  | jumpAbsolute => rfl
  | jumpRelative c =>
    rw [target?]
    by_cases hc : m.core.holds c = true
    · simp [execute, Core.jumpIf, Core.jumpRelative, bind_apply, hc, Core.place, Core.placeAfter]
    · simp [execute, Core.jumpIf, bind_apply, hc, Core.placeAfter]
  | halt code => rw [execute_halt_apply]; rfl
  | putc byte => rw [execute_putc_apply]; rfl
  | getc =>
    cases hr : (Device.poll m.device).1 with
    | false => rw [execute_getc_of_not_ready hr]; rfl
    | true => rw [execute_getc_of_ready hr]; rfl
  | fetch width signed addressing =>
    cases addressing with
    | displaced => exact Core.keeps_place_fetchDisplaced field width signed m.core
    | scaled scale => exact Core.keeps_place_fetchScaled field width scale signed m.core
  | store width addressing =>
    cases addressing with
    | displaced => exact Core.keeps_place_storeDisplaced field width m.core
    | scaled scale => exact Core.keeps_place_storeScaled field width scale m.core
  | _ => rfl

end Instruction

end LectureMachine
