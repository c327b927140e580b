import LectureMachine.Word

/-!
# Big-endian bytes

A number is stored with its most significant byte first.
-/

namespace LectureMachine.BigEndian

/-- The number that a list of bytes denotes. -/
def value (bytes : List Byte) : Nat :=
  bytes.foldl (fun n b => n * 256 + b.toNat) 0

/-- The low `width` bytes of a number. -/
def bytes (n : Nat) : Nat → List Byte
  | 0 => []
  | width + 1 => bytes (n / 256) width ++ [BitVec.ofNat 8 n]

@[simp] theorem length_bytes (n width : Nat) : (bytes n width).length = width := by
  induction width generalizing n with
  | zero => rfl
  | succ width ih => simp [bytes, ih]

end LectureMachine.BigEndian
