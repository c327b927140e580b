import LectureMachine.Device
import LectureMachine.Text.Utf8

/-!
# Console

A device between a keyboard and a terminal. Input comes a line at a time: when the device has
nothing left, it shows what was written and reads the next line. Whoever sits at the keyboard sees
what the terminal shows at that moment. A line that is not well-formed text, and a line that ends in
a failure of the keyboard, is lost; after that, and after the end of the input, the keyboard is left
alone and the device has nothing more to read.
-/

namespace LectureMachine

/-- The byte that ends a line. -/
def newline : Byte := 10

/-! ### Terminal -/

/-- What was written. The terminal may hold it back until it is told to show it. -/
structure Terminal where
  shown : Array Byte := #[]
  heldBack : Array Byte := #[]
  /-- Nothing can be written. -/
  failsToWrite : Bool := false
  /-- Nothing can be shown. -/
  failsToFlush : Bool := false
  deriving DecidableEq, Repr

namespace Terminal

/-- Shows what was held back. -/
def flush (t : Terminal) : Terminal :=
  if t.failsToFlush then t else { t with shown := t.shown ++ t.heldBack, heldBack := #[] }

/-- Writes a byte; the end of a line is shown at once. -/
def write (t : Terminal) (b : Byte) : Terminal :=
  if t.failsToWrite then t
  else
    let t := { t with heldBack := t.heldBack.push b }
    if b = newline then t.flush else t

/-- All that was written, shown or not. -/
def written (t : Terminal) : List Byte := (t.shown ++ t.heldBack).toList

end Terminal

/-! ### Keyboard -/

/-- The keys that will be typed. -/
structure Keyboard where
  keys : List Byte
  /-- Reading past the last key fails, instead of finding the end of the input. -/
  failsAtEnd : Bool := false
  /-- The number of keys read so far. -/
  consumed : Nat := 0
  /-- What the terminal showed each time that the keyboard was read, the latest first. -/
  seen : List (List Byte) := []
  deriving DecidableEq, Repr

/-- The keys up to the end of the first line, and those after it. -/
def splitLine : List Byte → List Byte × List Byte
  | [] => ([], [])
  | b :: bs =>
    if b = newline then ([b], bs)
    else match splitLine bs with | (line, rest) => (b :: line, rest)

namespace Keyboard

/-- Whether reading a line fails: the line runs into the failing end, or it is not text. -/
def rejects (k : Keyboard) (line : List Byte) : Bool :=
  k.failsAtEnd && line.getLast? != some newline || (Utf8.decode? line).isNone

/-- Reads a line with its end, in front of a terminal; nothing is found at the end of the input, or
if reading fails. -/
def readLine (k : Keyboard) (terminal : Terminal) : Option (List Byte) × Keyboard :=
  match splitLine k.keys with
  | (line, rest) =>
    let found := if line.isEmpty || k.rejects line then none else some line
    (found,
      { k with
        keys := rest
        consumed := k.consumed + line.length
        seen := terminal.shown.toList :: k.seen })

/-- More keys are typed. -/
def typeKeys (k : Keyboard) (keys : List Byte) : Keyboard := { k with keys := k.keys ++ keys }

end Keyboard

/-! ### Console -/

/-- A keyboard and a terminal, with the part of a line that was read but not yet used. -/
structure Console where
  keyboard : Keyboard
  terminal : Terminal := {}
  pending : List Byte := []
  /-- The keyboard gave out and is not asked again. -/
  closed : Bool := false
  deriving DecidableEq, Repr

namespace Console

/-- Reads the next line. A prompt may still be held back, so all that was written is shown first. -/
def fill (c : Console) : Console :=
  let c := { c with terminal := c.terminal.flush }
  match c.keyboard.readLine c.terminal with
  | (some line, keyboard) => { c with keyboard, pending := c.pending ++ line }
  | (none, keyboard) => { c with keyboard, closed := true }

/-- Whether there is nothing left until more keys are typed. -/
def isWaiting (c : Console) : Bool :=
  c.pending.isEmpty && !c.closed && c.keyboard.keys.isEmpty

instance : Device Console where
  put b c := { c with terminal := c.terminal.write b }
  get c := (c.pending.headD 0, { c with pending := c.pending.tail })
  poll c :=
    let c := if c.pending.isEmpty && !c.closed then c.fill else c
    (!c.pending.isEmpty, c)
  reset c := { c with pending := [] }

end Console

end LectureMachine
