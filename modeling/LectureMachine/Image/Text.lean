import LectureMachine.Image
import LectureMachine.Numeral
import LectureMachine.Text.Blank

/-!
# Text images

A line holds hexadecimal words between blanks, up to a comment. A word has one to eight digits,
which `0x` may precede. A plus sign may stand in the place of the first of the eight digits, if a
digit follows it.
-/

namespace LectureMachine.TextImage

/-- The part of a line before the comment. -/
def code (line : List Char) : List Char :=
  line.takeWhile fun c => c != '#' && c != ';'

/-- A word without its `0x`. -/
def dropRadix : List Char → List Char
  | '0' :: 'x' :: digits => digits
  | '0' :: 'X' :: digits => digits
  | digits => digits

/-- Digits without a plus sign in front of them. -/
def dropPlus : List Char → List Char
  | '+' :: digits => digits
  | digits => digits

/-- The value of a word, if it is well formed. -/
def parseWord? (token : List Char) : Option InstructionWord :=
  let numeral := dropRadix token
  let digits := dropPlus numeral
  if numeral.length ≤ 8 ∧ digits ≠ [] then (Numeral.value? 16 digits).map (BitVec.ofNat 32)
  else none

/-- The words of the code of a line; the number of the line is for complaints. -/
def parseLine (number : Nat) (line : List Char) : Except ImageError (List InstructionWord) :=
  (Text.words (code line)).mapM fun token =>
    match parseWord? token with
    | some word => .ok word
    | none => .error (.invalidWord number (String.ofList token))

/-- The words of lines that are numbered from `number` on. -/
def parseLines (number : Nat) : List (List Char) → Except ImageError (List InstructionWord)
  | [] => .ok []
  | line :: lines => do
    let words ← parseLine number line
    return words ++ (← parseLines (number + 1) lines)

/-- Reads an image. -/
def parse (source : String) : Except ImageError (List InstructionWord) :=
  parseLines 1 (source.toList.splitOn '\n')

end LectureMachine.TextImage
