import LectureMachine.Word

/-!
# Program images

A program image is a list of instruction words, stored as text or as bytes.
-/

namespace LectureMachine

/-- How an image is stored. -/
inductive ImageFormat
  /-- Hexadecimal words between blanks; `#` and `;` begin comments. -/
  | text
  /-- Big-endian words. -/
  | binary
  deriving DecidableEq, Repr

instance : Inhabited ImageFormat := ⟨.text⟩

/-- Why an image could not be read. -/
inductive ImageError
  /-- A word of the text is no numeral; lines are counted from 1. -/
  | invalidWord (line : Nat) (token : String)
  /-- The number of bytes is not a multiple of four. -/
  | truncatedWord (length : Nat)
  /-- The file is not there, or it is not text. -/
  | unreadable
  deriving DecidableEq, Repr

/-- What the user is told about an image that could not be read. -/
def ImageError.message : ImageError → String
  | .invalidWord line token => s!"line {line}: `{token}` is not a 32 bit hexadecimal word"
  | .truncatedWord length =>
    s!"binary image is {length} bytes long, which is not a whole number of words"
  | .unreadable => "could not read image"

end LectureMachine
