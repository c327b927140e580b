/-!
# Hexadecimal numerals

Numbers are shown with upper case digits and without leading zeros, or filled up with zeros to a
fixed number of digits.
-/

namespace LectureMachine.Numeral

/-- The hexadecimal digits of `n`, the most significant first. -/
def hexDigits (n : Nat) : List Char :=
  (Nat.toDigits 16 n).map Char.toUpper

/-- The hexadecimal numeral of `n`. -/
def hex (n : Nat) : String :=
  String.ofList (hexDigits n)

/-- The hexadecimal numeral of `n`, filled up with zeros to at least `digits` digits. -/
def hexPadded (digits n : Nat) : String :=
  let ds := hexDigits n
  String.ofList (List.replicate (digits - ds.length) '0' ++ ds)

/-- The value of a hexadecimal digit of either case. -/
def hexDigit? (c : Char) : Option Nat :=
  if '0' ≤ c ∧ c ≤ '9' then some (c.toNat - '0'.toNat)
  else if 'a' ≤ c ∧ c ≤ 'f' then some (c.toNat - 'a'.toNat + 10)
  else if 'A' ≤ c ∧ c ≤ 'F' then some (c.toNat - 'A'.toNat + 10)
  else none

/-- The value of a numeral in the given base, whose digits may be of either case. -/
def value? (base : Nat) (digits : List Char) : Option Nat :=
  digits.foldlM (fun n c =>
    match hexDigit? c with
    | some d => if d < base then some (n * base + d) else none
    | none => none) 0

end LectureMachine.Numeral
