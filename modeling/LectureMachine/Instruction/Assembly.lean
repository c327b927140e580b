import LectureMachine.Instruction.Opcode

/-!
# Assembly text

An instruction word in the notation of the assembler: the mnemonic of the operation, then the
operands that it uses. The text of a scaled access leaves out the scale.
-/

namespace LectureMachine

/-- Which operands are written, and how. -/
inductive OperandFormat
  /-- Nothing. -/
  | none
  /-- The register X. -/
  | reg
  /-- The unsigned number X. -/
  | byte
  /-- The registers X and Y. -/
  | regReg
  /-- The registers X, Y and Z. -/
  | regRegReg
  /-- The unsigned number X and the registers Y and Z. -/
  | byteRegReg
  /-- The signed number X and the registers Y and Z. -/
  | signedByteRegReg
  /-- The unsigned number XY and the register Z. -/
  | pairReg
  /-- The signed number XY and the register Z. -/
  | signedPairReg
  /-- The signed number XYZ. -/
  | offset
  /-- From the address in the registers X and Y to the register Z. -/
  | fetchScaled
  /-- From the address in the signed number X and the register Y to the register Z. -/
  | fetchDisplaced
  /-- From the register X to the address in the registers Y and Z. -/
  | storeScaled
  /-- From the register X to the address in the signed number Y and the register Z. -/
  | storeDisplaced
  deriving DecidableEq, Repr

/-- The name of a register in assembly text. -/
def Register.name (r : Register) : String := s!"%0x{Numeral.hex r.val}"

/-- The operands of a field. -/
def OperandFormat.render (format : OperandFormat) (field : OperandField) : String :=
  let x := field.rx.name
  let y := field.ry.name
  let z := field.rz.name
  match format with
  | .none => ""
  | .reg => x
  | .byte => s!"{field.ux.toNat}"
  | .regReg => s!"{x},\t{y}"
  | .regRegReg => s!"{x},\t{y},\t{z}"
  | .byteRegReg => s!"{field.ux.toNat},\t{y},\t{z}"
  | .signedByteRegReg => s!"{field.sx.toInt},\t{y},\t{z}"
  | .pairReg => s!"{field.uxy.toNat},\t{z}"
  | .signedPairReg => s!"{field.sxy.toInt},\t{z}"
  | .offset => s!"{field.sxyz.toInt}"
  | .fetchScaled => s!"M({x} + {y}) ->\t{z}"
  | .fetchDisplaced => s!"M({field.sx.toInt} + {y}) ->\t{z}"
  | .storeScaled => s!"{x} ->\tM({y} + {z})"
  | .storeDisplaced => s!"{x} ->\tM({field.sy.toInt} + {z})"

/-- A mnemonic followed by the operands, if there are any. -/
def OperandFormat.line (format : OperandFormat) (mnemonic : String) (field : OperandField) :
    String :=
  match format with
  | .none => mnemonic
  | format => s!"{mnemonic}\t{format.render field}"

/-- The mnemonic of a jump. -/
def Condition.jumpMnemonic : Condition → String
  | .always => "jmp"
  | .zero => "jz"
  | .notZero => "jnz"
  | .less => "jl"
  | .greaterEqual => "jge"
  | .lessEqual => "jle"
  | .greater => "jg"
  | .below => "jb"
  | .aboveEqual => "jae"
  | .belowEqual => "jbe"
  | .above => "ja"

namespace Instruction

/-- The letter for a width: byte, word, long or quad. -/
def widthSuffix : Nat → String
  | 1 => "b"
  | 2 => "w"
  | 4 => "l"
  | _ => "q"

/-- The name of an operation in assembly text. -/
def mnemonic : Instruction → String
  | .halt _ => "halt"
  | .add _ => "addq"
  | .subtract _ => "subq"
  | .multiply _ => "mulq"
  | .divideUnsigned _ => "divq"
  | .divideSigned _ => "idivq"
  | .jumpAbsolute => "jmp"
  | .jumpRelative condition => condition.jumpMnemonic
  | .bitOr => "orq"
  | .bitAnd => "andq"
  | .bitNot => "notq"
  | .shiftLeft _ => "shlq"
  | .shiftRight _ => "shrq"
  | .shiftRightSigned _ => "sarq"
  | .loadUnsigned => "ldzwq"
  | .loadSigned => "ldswq"
  | .loadShifted => "shldwq"
  | .getc => "getc"
  | .putc _ => "putc"
  | .nop => "nop"
  | .fetch 8 _ _ => "movq"
  | .fetch width false _ => s!"movz{widthSuffix width}q"
  | .fetch width true _ => s!"movs{widthSuffix width}q"
  | .store width _ => s!"mov{widthSuffix width}"

/-- Which operands an operation uses. -/
def operandFormat : Instruction → OperandFormat
  | .halt .register | .putc .register | .getc => .reg
  | .halt .immediate | .putc .immediate => .byte
  | .add .register | .subtract .register | .multiply .register
  | .divideUnsigned .register | .divideSigned .register
  | .shiftLeft .register | .shiftRight .register | .shiftRightSigned .register
  | .bitOr | .bitAnd => .regRegReg
  | .add .immediate | .subtract .immediate | .divideUnsigned .immediate
  | .shiftLeft .immediate | .shiftRight .immediate | .shiftRightSigned .immediate => .byteRegReg
  | .multiply .immediate | .divideSigned .immediate => .signedByteRegReg
  | .jumpAbsolute | .bitNot => .regReg
  | .jumpRelative _ => .offset
  | .loadUnsigned | .loadShifted => .pairReg
  | .loadSigned => .signedPairReg
  | .nop => .none
  | .fetch _ _ .displaced => .fetchDisplaced
  | .fetch _ _ (.scaled _) => .fetchScaled
  | .store _ .displaced => .storeDisplaced
  | .store _ (.scaled _) => .storeScaled

end Instruction

/-- The text of a word that is no instruction. -/
def illegalInstructionText : String := "illegal instruction"

/-- The assembly text of an instruction word. -/
def InstructionWord.disassemble (word : InstructionWord) : String :=
  match Instruction.ofOpcode? word.opcode with
  | some i => i.operandFormat.line i.mnemonic word.field
  | none => illegalInstructionText

/-! ### Preview

The instruction word that comes next, or nothing if none can be fetched, as it is shown beforehand.
-/

namespace Preview

/-- The operand bytes of the next instruction. -/
def field (word : Option InstructionWord) : OperandField := (word.getD 0).field

/-- The text of the next instruction. -/
def text : Option InstructionWord → String
  | some word => word.disassemble
  | none => illegalInstructionText

end Preview

end LectureMachine
