import LectureMachine.Transition
import LectureMachine.OperandField

/-!
# Arithmetic and logic

The arithmetic unit owns the registers and the flags. Every access that an operation makes to a
register is seen as activity; `peek` and `poke` are for the host, which goes unseen. Register 0 is
wired to zero: what is written to it is lost.
-/

namespace LectureMachine

/-- What the last operations said about their results. -/
structure Flags where
  /-- The result was zero. -/
  zero : Bool := false
  /-- The result did not fit as an unsigned number. -/
  carry : Bool := false
  /-- The result did not fit as a signed number. -/
  overflow : Bool := false
  /-- The result was negative. -/
  sign : Bool := false
  deriving DecidableEq, Repr

/-- The registers and the flags. -/
structure Alu where
  registers : Vector Word 256 := Vector.replicate 256 0
  flags : Flags := {}
  deriving DecidableEq

namespace Alu

/-! ### Access to the registers -/

/-- The value of a register. -/
def peek (alu : Alu) (r : Register) : Word := alu.registers[r]

/-- Puts a value into a register, except register 0, which stays as it is. -/
def poke (alu : Alu) (r : Register) (v : Word) : Alu :=
  if r = 0 then alu else { alu with registers := alu.registers.set r v }

/-- Reads a register. -/
def read (r : Register) : Transition Alu Word := do
  let v := (← get).peek r
  Transition.perform (.register (.read r v))
  return v

/-- Writes a register; register 0 takes nothing but zero. -/
def write (r : Register) (v : Word) : Transition Alu Unit := do
  let v := if r = 0 then 0 else v
  Transition.perform (.register (.write r v))
  modify fun alu => { alu with registers := alu.registers.set r v }

/-- Changes the flags. -/
def mark (f : Flags → Flags) : Transition Alu Unit :=
  modify fun alu => { alu with flags := f alu.flags }

@[simp] theorem read_apply (r : Register) (alu : Alu) :
    read r alu = ⟨.ok (alu.peek r), alu, [.register (.read r (alu.peek r))]⟩ := rfl

@[simp] theorem write_apply (r : Register) (v : Word) (alu : Alu) :
    write r v alu =
      ⟨.ok (), { alu with registers := alu.registers.set r (if r = 0 then 0 else v) },
        [.register (.write r (if r = 0 then 0 else v))]⟩ := rfl

@[simp] theorem mark_apply (f : Flags → Flags) (alu : Alu) :
    mark f alu = ⟨.ok (), { alu with flags := f alu.flags }, []⟩ := rfl

/-- Clears all registers and flags. -/
def reset : Transition Alu Unit := do
  set ({} : Alu)
  Transition.perform (.register .reset)

/-! ### Loading -/

/-- Writes a value and says whether it is zero. -/
def load (r : Register) (v : Word) : Transition Alu Unit := do
  write r v
  mark ({ · with zero := v == 0 })

/-- Loads the unsigned number XY into Z. -/
def loadUnsigned (field : OperandField) : Transition Alu Unit :=
  load field.rz field.uxy

/-- Loads the signed number XY into Z. -/
def loadSigned (field : OperandField) : Transition Alu Unit :=
  load field.rz field.sxy

/-- Moves Z up by 16 bits and adds the unsigned number XY. -/
def loadShifted (field : OperandField) : Transition Alu Unit := do
  let v ← read field.rz
  load field.rz ((v <<< 16) + field.uxy)

/-! ### Shifts -/

/-- Shifts to the left, by the amount modulo 64. For amounts below 64 the carry is the last bit
shifted out, and bit 0 of the value if nothing is shifted. -/
def shiftLeft (amount v : Word) (r : Register) : Transition Alu Unit := do
  write r (v <<< (amount.toNat % 64))
  if amount.toNat < 64 then
    mark ({ · with carry := v.getLsbD ((64 - amount.toNat) % 64) })

/-- Shifts to the right, by the amount modulo 64, filling with zeros. -/
def shiftRight (amount v : Word) (r : Register) : Transition Alu Unit :=
  write r (v >>> (amount.toNat % 64))

/-- Shifts to the right, by the amount modulo 64, filling with the sign. -/
def shiftRightSigned (amount v : Word) (r : Register) : Transition Alu Unit :=
  write r (v.sshiftRight (amount.toNat % 64))

/-! ### Sums and differences -/

/-- Adds, and sets all flags. -/
def add (x y : Word) (r : Register) : Transition Alu Unit := do
  let z := x + y
  write r z
  mark fun _ =>
    { zero := z == 0, carry := BitVec.uaddOverflow x y, overflow := BitVec.saddOverflow x y,
      sign := z.msb }

/-- Subtracts `x` from `y`, and sets all flags. -/
def subtract (x y : Word) (r : Register) : Transition Alu Unit := do
  let z := y - x
  write r z
  mark fun _ =>
    { zero := z == 0, carry := y.ult z,
      overflow := (!x.msb && y.msb && !z.msb) || (x.msb && !y.msb && z.msb), sign := z.msb }

/-! ### Bitwise operations -/

/-- Puts the bits common to X and Y into Z. -/
def bitAnd (field : OperandField) : Transition Alu Unit := do
  let x ← read field.rx
  let y ← read field.ry
  load field.rz (x &&& y)

/-- Puts the bits of X or Y into Z. -/
def bitOr (field : OperandField) : Transition Alu Unit := do
  let x ← read field.rx
  let y ← read field.ry
  load field.rz (x ||| y)

/-- Puts the bits that X lacks into Y. -/
def bitNot (field : OperandField) : Transition Alu Unit := do
  let x ← read field.rx
  load field.ry (~~~x)

/-! ### Products and quotients -/

/-- Multiplies as signed numbers and keeps the low word. A high word other than zero sets carry and
overflow; they are never cleared. -/
def multiply (x y : Word) (r : Register) : Transition Alu Unit := do
  let product := x.signExtend 128 * y.signExtend 128
  write r (product.extractLsb' 0 64)
  if product.extractLsb' 64 64 ≠ 0 then
    mark ({ · with carry := true, overflow := true })

/-- The register `n` places after `r`; there has to be one. -/
def following (r : Register) (n : Nat) : Transition Alu Register :=
  match r.after? n with
  | some r' => pure r'
  | none => Transition.fault (.registerOutOfRange (r.val + n))

/-- Divides the two-word number in `dividend` (low) and the register after it (high). The quotient
goes to `r` (low) and the register after it (high), the remainder to the register after that. -/
def divideUnsigned (divisor : Word) (dividend r : Register) : Transition Alu Unit := do
  let low ← read dividend
  let high ← read (← following dividend 1)
  let quotientHigh ← following r 1
  let remainder ← following r 2
  if divisor = 0 then Transition.fault .divisionByZero
  let n := high ++ low
  let d := divisor.setWidth 128
  write r ((n / d).extractLsb' 0 64)
  write quotientHigh ((n / d).extractLsb' 64 64)
  write remainder ((n % d).extractLsb' 0 64)

/-- Divides as signed numbers, rounding toward zero. The quotient goes to `r`, the remainder to the
register after it. -/
def divideSigned (divisor dividend : Word) (r : Register) : Transition Alu Unit := do
  let remainder ← following r 1
  if divisor = 0 then Transition.fault .divisionByZero
  let quotient := dividend.sdiv divisor
  write r quotient
  write remainder (dividend - divisor * quotient)

end Alu

end LectureMachine
