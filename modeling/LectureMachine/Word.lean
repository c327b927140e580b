/-!
# Words, bytes and registers

The machine computes on words of 64 bits and talks to the outside in bytes. A word has no sign of
its own: an instruction reads it as signed or unsigned.
-/

namespace LectureMachine

/-- A machine word. -/
abbrev Word := BitVec 64

/-- A byte of memory, of the input or of the output. -/
abbrev Byte := BitVec 8

/-- An instruction as it lies in memory: an opcode byte and three operand bytes. -/
abbrev InstructionWord := BitVec 32

/-- The name of a register. -/
abbrev Register := Fin 256

/-- There is a register 0. The zero is the one that a literal refers to. -/
instance Register.neZero : @NeZero Nat Zero.ofOfNat0 256 := ⟨by decide⟩

/-- The register `n` places after `r`, if there is one. -/
def Register.after? (r : Register) (n : Nat) : Option Register :=
  if h : r.val + n < 256 then some ⟨r.val + n, h⟩ else none

/-- The low `width` bytes of a word, continued to the left by the sign of the topmost of them. -/
def Word.extendSign (width : Nat) (w : Word) : Word :=
  (w.setWidth (8 * width)).signExtend 64

end LectureMachine
