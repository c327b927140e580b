import LectureMachine.Word

/-!
# Devices

The machine reads and writes single bytes through a device. It asks whether there is a byte before
it takes one, and it keeps none for itself.
-/

namespace LectureMachine

/-- A source and sink of bytes with the states `δ`. -/
class Device (δ : Type) where
  /-- Writes a byte. -/
  put : Byte → δ → δ
  /-- Takes the next byte. -/
  get : δ → Byte × δ
  /-- Asks whether there is a next byte. -/
  poll : δ → Bool × δ
  /-- Tells the device that the machine was reset. -/
  reset : δ → δ

end LectureMachine
