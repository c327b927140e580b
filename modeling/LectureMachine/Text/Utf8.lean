import LectureMachine.Word

/-!
# UTF-8

Text is stored as UTF-8. A character takes one to four bytes; overlong forms, surrogates and numbers
past the last character are not well formed. Ill-formed bytes can be read with a replacement
character for each stretch that could have begun a character but did not.
-/

namespace LectureMachine.Utf8

/-- What the first byte of a character says: how many bytes follow it, the bits that it gives, and
the range in which the byte after it has to lie. -/
structure Lead where
  following : Nat
  bits : Nat
  low : Nat := 0x80
  high : Nat := 0xBF

/-- Reads the first byte of a character. -/
def lead? (b : Byte) : Option Lead :=
  let n := b.toNat
  if n < 0x80 then some ⟨0, n, 0x80, 0xBF⟩
  else if n < 0xC2 then none
  else if n < 0xE0 then some ⟨1, n - 0xC0, 0x80, 0xBF⟩
  else if n = 0xE0 then some ⟨2, 0, 0xA0, 0xBF⟩
  else if n = 0xED then some ⟨2, 0xD, 0x80, 0x9F⟩
  else if n < 0xF0 then some ⟨2, n - 0xE0, 0x80, 0xBF⟩
  else if n = 0xF0 then some ⟨3, 0, 0x90, 0xBF⟩
  else if n < 0xF4 then some ⟨3, n - 0xF0, 0x80, 0xBF⟩
  else if n = 0xF4 then some ⟨3, 4, 0x80, 0x8F⟩
  else none

/-- Reads the bytes that follow the first one. Answers with the number of the character if all of
them are there, and with the rest of the bytes. -/
def continuation (following bits low high : Nat) (bytes : List Byte) : Option Nat × List Byte :=
  match following, bytes with
  | 0, bytes => (some bits, bytes)
  | _ + 1, [] => (none, [])
  | following + 1, b :: bytes =>
    if low ≤ b.toNat ∧ b.toNat ≤ high then
      continuation following (bits * 64 + b.toNat % 64) 0x80 0xBF bytes
    else (none, b :: bytes)

theorem length_continuation_le (following bits low high : Nat) (bytes : List Byte) :
    (continuation following bits low high bytes).2.length ≤ bytes.length := by
  fun_induction continuation following bits low high bytes with
  | case1 => simp
  | case2 => simp
  | case3 _ _ _ _ _ _ _ ih => simp; omega
  | case4 => simp

/-- The characters of a list of bytes, with nothing in place of each ill-formed stretch. -/
def characters : List Byte → List (Option Char)
  | [] => []
  | b :: bytes =>
    match lead? b with
    | none => none :: characters bytes
    | some lead =>
      let tail := continuation lead.following lead.bits lead.low lead.high bytes
      have : tail.2.length ≤ bytes.length := length_continuation_le ..
      tail.1.map Char.ofNat :: characters tail.2
termination_by bytes => bytes.length
decreasing_by
  · simp
  · exact Nat.lt_succ_of_le this

/-- The text of a list of bytes, if all of them are well formed. -/
def decode? (bytes : List Byte) : Option (List Char) :=
  (characters bytes).mapM id

/-- The text of a list of bytes, with the replacement character in place of what is ill formed. -/
def decodeLossy (bytes : List Byte) : List Char :=
  (characters bytes).map (·.getD '\uFFFD')

/-- The bytes of a text. -/
def encode (text : String) : List Byte :=
  text.toUTF8.toList.map (·.toBitVec)

end LectureMachine.Utf8
