import LectureMachine.Fault

/-!
# Operand fields

An instruction word is an opcode byte followed by three operand bytes X, Y and Z. The operand bytes
can be read one by one, as register names or as small numbers, or joined to wider numbers; which
reading counts is for the instruction to say.
-/

namespace LectureMachine

/-- The three operand bytes of an instruction word. -/
structure OperandField where
  raw : BitVec 24
  deriving DecidableEq, Repr

namespace OperandField

/-- The operand field with the given number, which has to fit into 24 bits. -/
def ofNumber? (n : BitVec 32) : Except Fault OperandField :=
  if n < 0x1000000 then .ok ⟨n.setWidth 24⟩ else .error (.invalidField n)

/-! ### Bytes and registers -/

/-- The byte X. -/
def x (field : OperandField) : Byte := field.raw.extractLsb' 16 8

/-- The byte Y. -/
def y (field : OperandField) : Byte := field.raw.extractLsb' 8 8

/-- The byte Z. -/
def z (field : OperandField) : Byte := field.raw.extractLsb' 0 8

/-- The register that X names. -/
def rx (field : OperandField) : Register := ⟨field.x.toNat, field.x.isLt⟩

/-- The register that Y names. -/
def ry (field : OperandField) : Register := ⟨field.y.toNat, field.y.isLt⟩

/-- The register that Z names. -/
def rz (field : OperandField) : Register := ⟨field.z.toNat, field.z.isLt⟩

/-! ### Numbers -/

/-- X as an unsigned number. -/
def ux (field : OperandField) : Word := field.x.setWidth 64

/-- X and Y joined, as an unsigned number. -/
def uxy (field : OperandField) : Word := (field.raw.extractLsb' 8 16).setWidth 64

/-- X as a signed number. -/
def sx (field : OperandField) : Word := field.x.signExtend 64

/-- Y as a signed number. -/
def sy (field : OperandField) : Word := field.y.signExtend 64

/-- X and Y joined, as a signed number. -/
def sxy (field : OperandField) : Word := (field.raw.extractLsb' 8 16).signExtend 64

/-- All three bytes joined, as a signed number. -/
def sxyz (field : OperandField) : Word := field.raw.signExtend 64

end OperandField

namespace InstructionWord

/-- The topmost byte of an instruction word. -/
def opcode (word : InstructionWord) : Byte := word.extractLsb' 24 8

/-- The operand bytes of an instruction word. -/
def field (word : InstructionWord) : OperandField := ⟨word.extractLsb' 0 24⟩

end InstructionWord

end LectureMachine
