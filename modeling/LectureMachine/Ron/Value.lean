import LectureMachine.Word

/-!
# RON values

RON is an object notation whose values look like the literals of a program: numbers, texts, optional
values, lists, maps, and structures with named or unnamed parts, which can have a name themselves.
-/

namespace LectureMachine.Ron

/-- A name; a raw name is marked as such where it is written. -/
structure Name where
  text : List Char
  raw : Bool := false
  deriving DecidableEq, Repr

/-- A type that an integer can name after its digits. -/
structure IntegerType where
  signed : Bool
  /-- The number of bits. -/
  width : Nat
  deriving DecidableEq, Repr

namespace IntegerType

/-- The type of words. -/
def word : IntegerType := ⟨false, 64⟩

/-- All types of integers. -/
def all : List IntegerType :=
  [true, false].flatMap fun signed => [8, 16, 32, 64].map (IntegerType.mk signed)

/-- The type as it is written. -/
def text (t : IntegerType) : List Char :=
  (if t.signed then 'i' else 'u') :: Nat.toDigits 10 t.width

/-- The least value of a type. -/
def least (t : IntegerType) : Int := if t.signed then (BitVec.intMin t.width).toInt else 0

/-- The greatest value of a type. -/
def greatest (t : IntegerType) : Int :=
  if t.signed then (BitVec.intMax t.width).toInt else (BitVec.allOnes t.width).toNat

end IntegerType

/-- A value as it is written. -/
inductive Value
  | bool (b : Bool)
  /-- An integer, with its type if it names one. -/
  | integer (type : Option IntegerType) (n : Int)
  | byte (b : Byte)
  /-- A number with a fraction, with an exponent or without a finite value. -/
  | float (digits : List Char)
  | text (text : List Char)
  | bytes (text : List Char)
  | char (c : Char)
  /-- An optional value that is not there. -/
  | absent
  /-- An optional value that is there. -/
  | present (content : Value)
  | list (items : List Value)
  | map (entries : List (Value × Value))
  /-- A name that stands alone. -/
  | name (name : Name)
  /-- Unnamed parts in parentheses. -/
  | tuple (name : Option Name) (items : List Value)
  /-- Named parts in parentheses. -/
  | record (name : Option Name) (fields : List (Name × Value))

/-- What a document asks of its reader. -/
structure Extensions where
  /-- An optional value need not say that it is there. -/
  implicitSome : Bool := false
  /-- A structure has to have its name. -/
  explicitStructNames : Bool := false
  /-- A structure in an optional value needs no parentheses of its own. -/
  unwrapVariantNewtypes : Bool := false
  deriving DecidableEq, Repr

/-- A value with the extensions that it was written for. -/
structure Document where
  extensions : Extensions
  value : Value

/-- Reads something from the front of a text, and gives it with the rest of the text. -/
abbrev Reader (α : Type) := List Char → Option (α × List Char)

end LectureMachine.Ron
