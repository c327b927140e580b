import LectureMachine.Transition
import LectureMachine.BigEndian
import Std.Data.HashMap

/-!
# Memory

A byte for every word. The bytes are kept in pages, which come into being with the first write to
them; until then their bytes are zero. Values of one to eight bytes are stored big-endian, at
addresses that leave no remainder on the page, and never over the edge of a page.
-/

namespace LectureMachine

/-- The number of bytes in a page. -/
def Page.size : Nat := 1024

/-- A block of consecutive bytes. -/
abbrev Page := Vector Byte Page.size

namespace Page

/-- A page of zeros. -/
def blank : Page := Vector.replicate Page.size 0

/-- The number in the `width` bytes from `offset` on. -/
def fetch (page : Page) (offset width : Nat) : Nat :=
  BigEndian.value ((List.range width).map fun i => page.getD (offset + i) 0)

/-- Puts bytes one after the other, from `offset` on. -/
def store (page : Page) (offset : Nat) : List Byte → Page
  | [] => page
  | b :: bs => store (page.setIfInBounds offset b) (offset + 1) bs

end Page

/-- The pages that were written to, by their number. -/
structure Memory where
  pages : Std.HashMap Nat Page := ∅

namespace Memory

/-- The byte at an address. -/
def byte (m : Memory) (address : Word) : Byte :=
  match m.pages[address.toNat / Page.size]? with
  | some page => page.getD (address.toNat % Page.size) 0
  | none => 0

/-- The number of pages that were written to. -/
def pageCount (m : Memory) : Nat := m.pages.size

/-- The page number and the offset of an access, if the access is allowed. -/
def locate (address : Word) (width : Nat) : Except Fault (Nat × Nat) :=
  let offset := address.toNat % Page.size
  if width = 0 ∨ 8 < width then .error (.invalidWidth width)
  else if offset % width ≠ 0 then .error (.misaligned address width)
  else if Page.size < offset + width then .error (.crossesPage address width)
  else .ok (address.toNat / Page.size, offset)

/-- The value at an address, found without being seen. -/
def peek (m : Memory) (address : Word) (width : Nat) : Except Fault Word := do
  let (page, offset) ← locate address width
  return match m.pages[page]? with
    | some page => BitVec.ofNat 64 (page.fetch offset width)
    | none => 0

/-- Stores bytes in a page. -/
def store (m : Memory) (page offset : Nat) (bytes : List Byte) : Memory :=
  { m with pages := m.pages.alter page fun p => some ((p.getD Page.blank).store offset bytes) }

/-- Stores a program from the word with index `i` on. -/
def storeProgram (m : Memory) (i : Nat) : List InstructionWord → Memory
  | [] => m
  | word :: words =>
    (m.store (4 * i / Page.size) (4 * i % Page.size) (BigEndian.bytes word.toNat 4)).storeProgram
      (i + 1) words

/-! ### Access over the bus -/

/-- Reads the value at an address. -/
def read (address : Word) (width : Nat) : Transition Memory Word := do
  let v ← Transition.ofExcept ((← get).peek address width)
  Transition.perform (.memory (.read address width v))
  return v

theorem read_apply (address : Word) (width : Nat) (m : Memory) :
    read address width m =
      match m.peek address width with
      | .ok v => ⟨.ok v, m, [.memory (.read address width v)]⟩
      | .error f => ⟨.error f, m, []⟩ := by
  rcases h : m.peek address width with f | v <;> simp [read, Transition.bind_apply, Except.map, h]

/-- Writes the low `width` bytes of a value. -/
def write (address : Word) (width : Nat) (v : Word) : Transition Memory Unit := do
  let (page, offset) ← Transition.ofExcept (locate address width)
  modify (·.store page offset (BigEndian.bytes v.toNat width))
  Transition.perform (.memory (.write address width v))

theorem write_apply (address : Word) (width : Nat) (v : Word) (m : Memory) :
    write address width v m =
      match locate address width with
      | .ok (page, offset) =>
        ⟨.ok (), m.store page offset (BigEndian.bytes v.toNat width),
          [.memory (.write address width v)]⟩
      | .error f => ⟨.error f, m, []⟩ := by
  rcases h : locate address width with f | ⟨page, offset⟩ <;>
    simp [write, Transition.bind_apply, h]

/-- Puts a program at address 0, four bytes to the word. -/
def loadProgram (program : List InstructionWord) : Transition Memory Unit := do
  modify (·.storeProgram 0 program)
  Transition.perform (.memory (.load program))

/-- Forgets all pages. -/
def reset : Transition Memory Unit := do
  set ({} : Memory)
  Transition.perform (.memory .reset)

end Memory

end LectureMachine
