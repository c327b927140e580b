import LectureMachine.Ron.Name
import LectureMachine.Ron.Quoted
import LectureMachine.Ron.Space

/-!
# Looking ahead

What stands between parentheses is told from the text up to the next comma or the closing
parenthesis: a name with a colon begins the parts of a structure, and a comma with more after it
divides the parts of a tuple. Brackets have to be counted on the way, but not those in quotations
and comments.
-/

namespace LectureMachine.Ron

/-- What stands between parentheses. -/
inductive Contents
  /-- One value, perhaps with a comma after it. -/
  | one
  /-- Several values. -/
  | several
  /-- Values with names. -/
  | fields
  deriving DecidableEq, Repr

/-- What is left after a quotation, if there is one. A mark that opens one has to be followed by one
that can close it. -/
def skipQuotation (reader : QuotationReader) (s : List Char) : Option (List Char) :=
  match reader s with
  | .ok (_, rest) => some rest
  | .error .malformed => some s
  | .error .unclosed => none

/-- What is left after a character in apostrophes, if there is one. -/
def skipChar (s : List Char) : List Char :=
  match readChar s with
  | some (_, rest) => rest
  | none => s

/-- What is left after a character, a text and bytes in quotation marks, each if it is there. -/
def skipQuotations (s : List Char) : Option (List Char) :=
  (skipQuotation readText (skipChar s)).bind (skipQuotation readBytes)

/-- What a comma in parentheses says about them. -/
def contentsAfterComma? (s : List Char) : Option Contents :=
  match skipSpace s with
  | some (')' :: _) => some .one
  | some _ => some .several
  | none => none

/-- What stands between the parentheses that a text begins in, inside `depth` more brackets. The
rest of a text is shorter than the text, which is checked so that the search ends. -/
def scanContents? (depth : Nat) (s : List Char) : Option Contents :=
  match (skipSpace s).bind skipQuotations with
  | none | some [] => none
  | some (c :: rest) =>
    if c = ',' ∧ depth = 0 then contentsAfterComma? rest
    else if rest.length < s.length then
      if c = '(' ∨ c = '[' ∨ c = '\x7b' then scanContents? (depth + 1) rest
      else if c = ')' ∨ c = ']' ∨ c = '\x7d' then
        match depth with
        | 0 => some .one
        | depth + 1 => scanContents? depth rest
      else scanContents? depth rest
    else none
termination_by s.length

/-- What stands between the parentheses that have been opened before a text. -/
def contents? (s : List Char) : Option Contents :=
  match readName s with
  | none => scanContents? 0 s
  | some (_, rest) =>
    match skipSpace rest with
    | none => none
    | some (':' :: _) => some .fields
    | some rest => scanContents? 0 rest

end LectureMachine.Ron
