import LectureMachine.Image
import LectureMachine.BigEndian

/-!
# Binary images

Four bytes make a word, the most significant first.
-/

namespace LectureMachine.BinaryImage

/-- The words of the bytes, four at a time; what is left at the end is dropped. -/
def words : List Byte → List InstructionWord
  | a :: b :: c :: d :: rest => BitVec.ofNat 32 (BigEndian.value [a, b, c, d]) :: words rest
  | _ => []

/-- Reads an image. -/
def parse (bytes : List Byte) : Except ImageError (List InstructionWord) :=
  if bytes.length % 4 = 0 then .ok (words bytes) else .error (.truncatedWord bytes.length)

end LectureMachine.BinaryImage
