import LectureMachine.Instruction

/-!
# Opcodes

The opcode of every operation. No rule gives the opcodes of the fetches and stores, so they are laid
out in tables as well, a row for each way of addressing.
-/

namespace LectureMachine.Instruction

/-- A way of addressing with the opcodes for values of one, two, four and eight bytes. -/
abbrev OpcodeRow := Addressing × List Nat

/-- The operations of a row with their opcodes. -/
def OpcodeRow.entries (row : OpcodeRow) (operation : Nat → Addressing → Instruction) :
    List (Nat × Instruction) :=
  (row.2.zip [1, 2, 4, 8]).map fun (opcode, width) => (opcode, operation width row.1)

/-- The opcodes of the stores. -/
def storeOpcodes : List OpcodeRow :=
  [ (.displaced, [0x2B, 0x2A, 0x29, 0x18]),
    (.scaled 1, [0x23, 0x22, 0x21, 0x10]),
    (.scaled 2, [0x93, 0x92, 0x91, 0x80]),
    (.scaled 4, [0xB3, 0xB2, 0xB1, 0xA0]),
    (.scaled 8, [0xD3, 0xD2, 0xD1, 0xC0]) ]

/-- The opcodes of the fetches that fill up with zeros. -/
def unsignedFetchOpcodes : List OpcodeRow :=
  [ (.displaced, [0x1B, 0x1A, 0x19, 0x28]),
    (.scaled 1, [0x13, 0x12, 0x11, 0x20]),
    (.scaled 2, [0x83, 0x82, 0x81, 0x90]),
    (.scaled 4, [0xA3, 0xA2, 0xA1, 0xB0]),
    (.scaled 8, [0xC3, 0xC2, 0xC1, 0xD0]) ]

/-- The opcodes of the fetches that fill up with the sign. Eight bytes leave nothing to fill. -/
def signedFetchOpcodes : List OpcodeRow :=
  [ (.displaced, [0x1F, 0x1E, 0x1D]),
    (.scaled 1, [0x17, 0x16, 0x15]),
    (.scaled 2, [0x87, 0x86, 0x85]),
    (.scaled 4, [0xA7, 0xA6, 0xA5]),
    (.scaled 8, [0xC7, 0xC6, 0xC5]) ]

/-- The opcodes of the operations that do not use the memory. -/
def plainOpcodes : List (Nat × Instruction) :=
  [ (0x01, .halt .register),
    (0x09, .halt .immediate),
    (0x30, .add .register),
    (0x31, .subtract .register),
    (0x32, .multiply .register),
    (0x33, .divideUnsigned .register),
    (0x34, .divideSigned .register),
    (0x38, .add .immediate),
    (0x39, .subtract .immediate),
    (0x3A, .multiply .immediate),
    (0x3B, .divideUnsigned .immediate),
    (0x3C, .divideSigned .immediate),
    (0x40, .jumpAbsolute),
    (0x41, .jumpRelative .always),
    (0x42, .jumpRelative .zero),
    (0x43, .jumpRelative .notZero),
    (0x44, .jumpRelative .less),
    (0x45, .jumpRelative .greaterEqual),
    (0x46, .jumpRelative .lessEqual),
    (0x47, .jumpRelative .greater),
    (0x48, .jumpRelative .below),
    (0x49, .jumpRelative .aboveEqual),
    (0x4A, .jumpRelative .belowEqual),
    (0x4B, .jumpRelative .above),
    (0x50, .bitOr),
    (0x51, .bitAnd),
    (0x52, .shiftLeft .register),
    (0x53, .shiftRight .register),
    (0x54, .shiftRightSigned .register),
    (0x56, .loadUnsigned),
    (0x57, .loadSigned),
    (0x5A, .shiftLeft .immediate),
    (0x5B, .shiftRight .immediate),
    (0x5C, .shiftRightSigned .immediate),
    (0x5D, .loadShifted),
    (0x5E, .bitNot),
    (0x60, .getc),
    (0x61, .putc .register),
    (0x69, .putc .immediate),
    (0xFF, .nop) ]

/-- All opcodes with their operations. -/
def opcodes : List (Nat × Instruction) :=
  plainOpcodes
    ++ storeOpcodes.flatMap (·.entries .store)
    ++ unsignedFetchOpcodes.flatMap (·.entries (.fetch · false))
    ++ signedFetchOpcodes.flatMap (·.entries (.fetch · true))

/-- The operation of every opcode, in the order of the opcodes. -/
def ofOpcodeTable : Vector (Option Instruction) 256 :=
  Vector.ofFn fun opcode => opcodes.lookup opcode.val

/-- The operation that an opcode stands for, if any. -/
def ofOpcode? (opcode : Byte) : Option Instruction :=
  ofOpcodeTable[opcode.toNat]

theorem ofOpcode?_eq_lookup (opcode : Byte) : ofOpcode? opcode = opcodes.lookup opcode.toNat := by
  simp [ofOpcode?, ofOpcodeTable]

end LectureMachine.Instruction
