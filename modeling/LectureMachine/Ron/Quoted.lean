import LectureMachine.Ron.Value
import LectureMachine.Numeral
import LectureMachine.Text.Printable
import LectureMachine.Text.Utf8

/-!
# Quoted texts

A text stands between quotation marks. A backslash begins an escape: a letter for a character that
is hard to see, or the number of the character. When a text is written, quotation marks, backslashes
and all characters that are not shown as they are get escaped. A raw text has no escapes and ends at
a quotation mark with as many number signs as it began with.
-/

namespace LectureMachine.Ron

/-! ### Writing -/

/-- The escape that gives the number of a character. -/
def numberEscape (c : Char) : List Char :=
  '\\' :: 'u' :: '\x7b' :: Nat.toDigits 16 c.toNat ++ ['\x7d']

/-- A character as it is written in a quoted text. -/
def escape (c : Char) : List Char :=
  match c with
  | '\x00' => ['\\', '0']
  | '\t' => ['\\', 't']
  | '\r' => ['\\', 'r']
  | '\n' => ['\\', 'n']
  | '\\' => ['\\', '\\']
  | '\'' => ['\\', '\'']
  | '"' => ['\\', '"']
  | c => if Text.isPlain c then [c] else numberEscape c

/-- A text in quotation marks. -/
def quote (text : List Char) : List Char :=
  '"' :: text.flatMap escape ++ ['"']

/-! ### Reading -/

/-- What stands in quotation marks. -/
inductive Quotation
  | text
  | bytes
  /-- A single character. -/
  | char
  /-- A single byte. -/
  | byte
  deriving DecidableEq, Repr

/-- Reads the two digits of a byte. -/
def readByte : Reader Nat
  | a :: b :: rest => (Numeral.value? 16 [a, b]).map (·, rest)
  | _ => none

/-- Reads the bytes that follow the first one of a character, each as an escape of its own. -/
def readByteEscapes : Nat → Reader (List Byte)
  | 0, s => some ([], s)
  | n + 1, '\\' :: 'x' :: s => do
    let (b, s) ← readByte s
    let (bs, s) ← readByteEscapes n s
    return (BitVec.ofNat 8 b :: bs, s)
  | _ + 1, _ => none

/-- Reads the digits of a byte. Among bytes it is one of them. In a text it may be the first byte of
a character in UTF-8, with the bytes after it; a character quoted alone has one byte only. -/
def readByteEscape (quotation : Quotation) : Reader Char := fun s => do
  let (b, s) ← readByte s
  match quotation with
  | .bytes | .byte => return (Char.ofNat b, s)
  | .char => if b < 128 then return (Char.ofNat b, s) else none
  | .text =>
    let lead ← Utf8.lead? (BitVec.ofNat 8 b)
    let (bs, s) ← readByteEscapes lead.following s
    match Utf8.decode? (BitVec.ofNat 8 b :: bs) with
    | some [c] => return (c, s)
    | _ => none

/-- Reads the one to six digits of the number of a character, and the brace after them. -/
def readNumberEscape : Reader Char := fun s =>
  let digits := s.takeWhile (· != '\x7d')
  match s.dropWhile (· != '\x7d') with
  | [] => none
  | _ :: rest =>
    if digits.isEmpty || 6 < digits.length then none
    else
      match Numeral.value? 16 digits with
      | some n => if n.isValidChar then some (Char.ofNat n, rest) else none
      | none => none

/-- Reads what follows the backslash of an escape. A byte that is quoted alone is not given by the
number of a character. -/
def readEscape (quotation : Quotation) : Reader Char
  | '\'' :: rest => some ('\'', rest)
  | '"' :: rest => some ('"', rest)
  | '\\' :: rest => some ('\\', rest)
  | 'n' :: rest => some ('\n', rest)
  | 'r' :: rest => some ('\r', rest)
  | 't' :: rest => some ('\t', rest)
  | '0' :: rest => some ('\x00', rest)
  | 'x' :: rest => readByteEscape quotation rest
  | 'u' :: '\x7b' :: rest => if quotation = .byte then none else readNumberEscape rest
  | _ => none

/-- Why a quotation is not read. -/
inductive QuotationFault
  /-- There is no quotation, or it has an escape that is not well formed. -/
  | malformed
  /-- No quotation mark comes that could close it. -/
  | unclosed
  deriving DecidableEq, Repr

/-- Reads a quotation from the front of a text, and gives what is quoted with the rest. -/
abbrev QuotationReader := List Char → Except QuotationFault (List Char × List Char)

/-- Reads up to the closing quotation mark. -/
def readQuoted (quotation : Quotation) (s : List Char) :
    Except QuotationFault (List Char × List Char) :=
  match s with
  | [] => .error .unclosed
  | '"' :: rest => .ok ([], rest)
  | '\\' :: s =>
    match readEscape quotation s with
    | none => .error (if s.contains '"' then .malformed else .unclosed)
    | some (c, rest) =>
      if rest.length < s.length + 1 then
        (readQuoted quotation rest).map fun (cs, rest) => (c :: cs, rest)
      else .error .malformed
  | c :: s => (readQuoted quotation s).map fun (cs, rest) => (c :: cs, rest)
termination_by s.length

/-- Reads up to a mark. -/
def readUntil (mark : List Char) : Reader (List Char)
  | [] => if mark.isEmpty then some ([], []) else none
  | c :: s =>
    if mark.isPrefixOf (c :: s) then some ([], (c :: s).drop mark.length)
    else (readUntil mark s).map fun (cs, rest) => (c :: cs, rest)

/-- Reads a raw text from its number signs on. -/
def readRaw : QuotationReader := fun s =>
  let signs := s.takeWhile (· == '#')
  match s.dropWhile (· == '#') with
  | '"' :: rest =>
    match readUntil ('"' :: signs) rest with
    | some found => .ok found
    | none => .error .unclosed
  | _ => .error .malformed

/-- Reads a text, quoted or raw. -/
def readText : QuotationReader
  | '"' :: s => readQuoted .text s
  | 'r' :: s => readRaw s
  | _ => .error .malformed

/-- Reads bytes, quoted or raw. -/
def readBytes : QuotationReader
  | 'b' :: '"' :: s => readQuoted .bytes s
  | 'b' :: 'r' :: s => readRaw s
  | _ => .error .malformed

/-- Reads a single character in apostrophes. -/
def readChar : Reader Char
  | '\'' :: '\\' :: s =>
    match readEscape .char s with
    | some (c, '\'' :: rest) => some (c, rest)
    | _ => none
  | '\'' :: c :: '\'' :: rest => some (c, rest)
  | _ => none

/-- Reads a single byte, written as a character in apostrophes after a `b`. -/
def readByteChar : Reader Byte
  | 'b' :: '\'' :: '\\' :: s =>
    match readEscape .byte s with
    | some (c, '\'' :: rest) => some (BitVec.ofNat 8 c.toNat, rest)
    | _ => none
  | 'b' :: '\'' :: c :: '\'' :: rest =>
    if c.toNat < 128 then some (BitVec.ofNat 8 c.toNat, rest) else none
  | _ => none

end LectureMachine.Ron
