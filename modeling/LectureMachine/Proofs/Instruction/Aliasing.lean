import LectureMachine.Proofs.Instruction.Change
import LectureMachine.Device.Buffered

/-!
# Registers with two parts to play

The operand bytes of an instruction word may name one register twice, and the registers that follow
a named one may be named as well. An instruction should not care: its results are to be functions of
the registers before it. This is so for all instructions but one. The absolute jump leaves its
return address before it looks for its target, and if one register is named for both it finds the
return address there.
-/

namespace LectureMachine

open Transition

variable {δ : Type}

namespace Instruction

/-- An absolute jump that is to leave its return address in the register of its target, so that the
target is lost. The return address that is lost in register 0 takes no target with it, and neither
does one that is the target. -/
def LosesTarget (i : Instruction) (field : OperandField) (core : Core) : Prop :=
  i = .jumpAbsolute ∧ field.rx = field.ry ∧
    core.alu.peek field.rx ≠ if field.rx = 0 then 0 else core.ip + 4

/-! ### Targets found and targets meant -/

/-- Where an absolute jump goes. -/
lemma target?_jumpAbsolute (field : OperandField) (core : Core) :
    jumpAbsolute.target? field core =
      some ((Alu.Results.single (core.ip + 4) field.ry).value core.alu field.rx) := by
  rw [target?, Alu.state_write, Alu.Results.peek_carriedOut]

lemma value_single (v : Word) (r : Register) (alu : Alu) (r' : Register) :
    (Alu.Results.single v r).value alu r' =
      if r' = r then (if r' = 0 then 0 else v) else alu.peek r' :=
  Alu.Results.value_of_writes_eq rfl alu r'

variable [Device δ]

/-- A jump goes where it is meant to go unless its target is lost. -/
lemma target?_eq_change_target (i : Instruction) (field : OperandField) (m : Machine δ)
    (h : ¬ i.LosesTarget field m.core) : i.target? field m.core = (i.change field m).target := by
  cases i with
  | jumpAbsolute =>
    rw [target?_jumpAbsolute, value_single, change]
    by_cases hsame : field.rx = field.ry
    · have hkept : m.core.alu.peek field.rx = if field.rx = 0 then 0 else m.core.ip + 4 := by
        by_contra hlost
        exact h ⟨rfl, hsame, hlost⟩
      rw [if_pos hsame, hkept]
    · rw [if_neg hsame]
  | jumpRelative c => rw [target?, change, Word.shiftLeft_two]
  | _ => rfl

/-- The targets differ if the one that is meant is lost. -/
lemma place_ne_of_losesTarget {i : Instruction} {field : OperandField} {m : Machine δ}
    (h : i.LosesTarget field m.core) :
    m.core.placeAfter (i.target? field m.core) ≠ m.core.placeAfter (i.change field m).target := by
  obtain ⟨rfl, hsame, hlost⟩ := h
  rw [target?_jumpAbsolute, value_single, if_pos hsame]
  intro hplace
  exact hlost (Prod.mk.inj hplace).1.symm

end Instruction

/-! ### Reading before writing -/

namespace InstructionWord

variable [Device δ] {m : Machine δ} {word : InstructionWord} {i : Instruction}

/-- An instruction that does not fault leaves what its change says, which is a function of the
machine before it. It makes no difference which operand bytes name the same register, unless an
absolute jump loses its target. -/
theorem leads_execute_iff (legal : Instruction.ofOpcode? word.opcode = some i)
    (ok : (word.execute m).result = .ok ()) :
    (i.change word.field m).Leads m (word.execute m).state ↔ ¬ i.LosesTarget word.field m.core := by
  rw [execute_of_some legal] at ok ⊢
  have hleads := Instruction.leads_execute ⟨_, legal⟩ ok
  constructor
  · intro h hlost
    exact Instruction.place_ne_of_losesTarget hlost (hleads.place.symm.trans h.place)
  · intro hkept
    rwa [Instruction.target?_eq_change_target i word.field m hkept] at hleads

/-- A machine that can divide: the divisor is in register 1, the dividend in the registers 2 and
3. -/
def divisible : Machine Buffered :=
  { Machine.new {} with core.alu := ((Alu.poke {} 1 3).poke 2 7).poke 3 1 }

/-- The quotient is written over the divisor and the low word of the dividend, and the remainder
over the high word. -/
theorem leads_execute_division :
    Instruction.ofOpcode? (opcode 0x33010201) = some (.divideUnsigned .register) ∧
      (execute 0x33010201 divisible).result = .ok () ∧
      (Instruction.change (.divideUnsigned .register) (field 0x33010201) divisible).Leads
        divisible (execute 0x33010201 divisible).state ∧
      (execute 0x33010201 divisible).state.core.alu.peek 1 = 6148914691236517207 ∧
      (execute 0x33010201 divisible).state.core.alu.peek 2 = 0 ∧
      (execute 0x33010201 divisible).state.core.alu.peek 3 = 2 := by
  have hopcode : Instruction.ofOpcode? (opcode 0x33010201)
      = some (.divideUnsigned .register) := by
    rw [Instruction.ofOpcode?_eq_lookup]
    decide
  have hok : (execute 0x33010201 divisible).result = .ok () := by
    rw [execute_of_some hopcode]
    rfl
  have hleads := (leads_execute_iff hopcode hok).mpr fun hlost => nomatch hlost.1
  refine ⟨hopcode, hok, hleads, ?_, ?_, ?_⟩
  · rw [hleads.register]
    decide
  · rw [hleads.register]
    decide
  · rw [hleads.register]
    decide

/-- A machine at its second instruction, with an address in register 1. -/
def pointed : Machine Buffered :=
  { Machine.new {} with core := { alu := Alu.poke {} 1 16, ip := 4 } }

/-- A jump to register 1 that leaves its return address there as well goes to the return address. -/
theorem not_leads_execute_jump :
    Instruction.ofOpcode? (opcode 0x40010100) = some .jumpAbsolute ∧
      (execute 0x40010100 pointed).result = .ok () ∧
      pointed.core.alu.peek 1 = 16 ∧ (execute 0x40010100 pointed).state.core.ip = 8 ∧
      ¬ (Instruction.change .jumpAbsolute (field 0x40010100) pointed).Leads
        pointed (execute 0x40010100 pointed).state := by
  have hopcode : Instruction.ofOpcode? (opcode 0x40010100) = some .jumpAbsolute := by
    rw [Instruction.ofOpcode?_eq_lookup]
    decide
  rw [execute_of_some hopcode]
  have hip : (Instruction.execute .jumpAbsolute (field 0x40010100) pointed).state.core.ip = 8 := by
    decide
  refine ⟨hopcode, rfl, by decide, hip, fun hleads => ?_⟩
  have hplace := (Prod.mk.inj hleads.place).1
  rw [hip] at hplace
  exact absurd hplace (by decide)

end InstructionWord

end LectureMachine
