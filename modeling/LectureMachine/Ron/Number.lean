import LectureMachine.Ron.Quoted
import LectureMachine.Ron.Name

/-!
# Numbers

An integer has a sign, a base, digits with underscores between them and the name of a type, of which
all but the digits can be left out. It has to be a value of the type. A byte can be written as a
character. Other numbers are only looked at for whether they are well formed.
-/

namespace LectureMachine.Ron

/-- The sign of a number, as a factor, and the digits after it. -/
def splitSign : List Char → Int × List Char
  | '+' :: s => (1, s)
  | '-' :: s => (-1, s)
  | s => (1, s)

/-- The base of an integer and the digits after it. -/
def splitBase : List Char → Nat × List Char
  | '0' :: 'b' :: s => (2, s)
  | '0' :: 'o' :: s => (8, s)
  | '0' :: 'x' :: s => (16, s)
  | s => (10, s)

/-- Whether a character can be a digit of an integer in some base. -/
def isIntegerChar (c : Char) : Bool := (Numeral.hexDigit? c).isSome || c == '_'

/-- The value of digits that may have underscores after the first of them. -/
def digitsValue? (base : Nat) : List Char → Option Nat
  | [] | '_' :: _ => none
  | digits => Numeral.value? base (digits.filter (· != '_'))

/-- The integer of a type that a sign, a base and digits make. -/
def IntegerType.integer? (type : IntegerType) (sign : Int) (base : Nat) (digits : List Char) :
    Option Int :=
  match digitsValue? base digits with
  | some n =>
    if type.least ≤ sign * n ∧ sign * n ≤ type.greatest then some (sign * n) else none
  | none => none

/-- The type named at the front of a text, and what is left after it. -/
def splitType (s : List Char) : Option (IntegerType × List Char) :=
  IntegerType.all.findSome? fun type => (dropWord type.text s).map (type, ·)

/-- Reads an integer. The name of a type is looked for where the hexadecimal digits end for the
first time. So it can follow a number in base ten or two, whose mark `0b` is made of such digits,
but not in the other bases. An integer without a type has 64 bits. -/
def readInteger : Reader (Option IntegerType × Int) := fun s =>
  let (sign, s) := splitSign s
  let digits := s.takeWhile isIntegerChar
  match splitType (s.dropWhile isIntegerChar) with
  | some (type, rest) =>
    let (base, digits) := splitBase digits
    (type.integer? sign base digits).map fun n => ((some type, n), rest)
  | none =>
    let (base, s) := splitBase s
    let type : IntegerType := ⟨sign < 0, 64⟩
    (type.integer? sign base (s.takeWhile isIntegerChar)).map fun n =>
      ((none, n), s.dropWhile isIntegerChar)

/-- Whether a character can be in a number with a fraction or an exponent. -/
def isFloatChar (c : Char) : Bool :=
  c.isDigit || c == 'e' || c == 'E' || c == '.' || c == '+' || c == '-' || c == '_'

/-- A number without its underscores, which must follow a digit or an exponent mark. -/
def dropUnderscores (allowed : Bool) : List Char → Option (List Char)
  | [] => some []
  | '_' :: s => if allowed then dropUnderscores allowed s else none
  | '.' :: s => (dropUnderscores false s).map ('.' :: ·)
  | c :: s => (dropUnderscores (allowed || c != '+' && c != '-') s).map (c :: ·)

/-- Whether an exponent is well formed, or left out. -/
def isExponent : List Char → Bool
  | [] => true
  | e :: s => (e == 'e' || e == 'E') && !(splitSign s).2.isEmpty && (splitSign s).2.all Char.isDigit

/-- Whether the digits of a number are well formed: some before or after the point, if there is
one. -/
def isFloat (s : List Char) : Bool :=
  let s := (splitSign s).2
  let whole := s.takeWhile Char.isDigit
  match s.dropWhile Char.isDigit with
  | '.' :: s =>
    !(whole.isEmpty && (s.takeWhile Char.isDigit).isEmpty) && isExponent (s.dropWhile Char.isDigit)
  | s => !whole.isEmpty && isExponent s

/-- What is left after the name of a floating type, if it is there. -/
def dropFloatType (s : List Char) : List Char :=
  ((dropWord "f32".toList s).or (dropWord "f64".toList s)).getD s

/-- Reads a number without a finite value and without a sign, from its word on. -/
def readNotFinite : Reader (List Char) := fun s =>
  ["inf", "NaN"].findSome? fun name =>
    ["", "f32", "f64"].findSome? fun type =>
      (dropWord (name ++ type).toList s).map (name.toList, ·)

/-- Reads a number with a sign or with a digit that need not be an integer. -/
def readFloat : Reader (List Char) := fun s =>
  let signed :=
    match s with
    | '+' :: rest | '-' :: rest => readNotFinite rest
    | _ => none
  match signed with
  | some found => some found
  | none =>
    match dropUnderscores false (s.takeWhile isFloatChar) with
    | some digits =>
      if isFloat digits then some (digits, dropFloatType (s.dropWhile isFloatChar)) else none
    | none => none

/-- Whether a number has to be read with its fraction or exponent. -/
def looksLikeFloat (s : List Char) : Bool :=
  let s := (splitSign s).2
  (s.takeWhile isIntegerChar).length < (s.takeWhile isFloatChar).length

/-- Reads a number. An integer that is too large counts as a number that need not be one. -/
def readNumber : Reader Value := fun s =>
  let float := (readFloat s).map fun (digits, rest) => (Value.float digits, rest)
  if looksLikeFloat s then float
  else
    match readByteChar s with
    | some (b, rest) => some (.byte b, rest)
    | none =>
      match readInteger s with
      | some ((type, n), rest) => some (.integer type n, rest)
      | none => float

end LectureMachine.Ron
