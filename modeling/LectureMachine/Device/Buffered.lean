import LectureMachine.Device

/-!
# Buffered device

A device in memory: the host fills a queue of input and looks at the output.
-/

namespace LectureMachine

/-- The input still to be read and the output written so far. -/
structure Buffered where
  input : List Byte := []
  output : Array Byte := #[]
  deriving DecidableEq, Repr

namespace Buffered

/-- Adds input at the end of the queue. -/
def pushInput (d : Buffered) (bytes : List Byte) : Buffered :=
  { d with input := d.input ++ bytes }

/-- Hands over the output and forgets it. -/
def takeOutput (d : Buffered) : List Byte × Buffered :=
  (d.output.toList, { d with output := #[] })

instance : Device Buffered where
  put b d := { d with output := d.output.push b }
  get d := (d.input.headD 0, { d with input := d.input.tail })
  poll d := (!d.input.isEmpty, d)
  reset _ := {}

end Buffered

end LectureMachine
