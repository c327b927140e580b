/-!
# White space and comments

Blanks and comments may stand between any two parts of a document. A comment goes to the end of the
line, or it stands between `/*` and `*/` and may hold others of its kind.
-/

namespace LectureMachine.Ron

/-- Whether a character is a blank. -/
def isSpace (c : Char) : Bool :=
  let n := c.toNat
  9 ≤ n && n ≤ 13 || n == 0x20 || n == 0x85 || n == 0x200E || n == 0x200F || n == 0x2028
    || n == 0x2029

/-- Where in a stretch of white space a character stands. -/
inductive Surrounding
  | blanks
  | lineComment
  /-- In a comment that is inside `depth` others. -/
  | blockComment (depth : Nat)
  deriving DecidableEq, Repr

/-- What is left of a text after the white space; nothing if a comment is not closed or if a slash
begins no comment. -/
def skipFrom : Surrounding → List Char → Option (List Char)
  | .blanks, '/' :: '/' :: cs => skipFrom .lineComment cs
  | .blanks, '/' :: '*' :: cs => skipFrom (.blockComment 0) cs
  | .blanks, '/' :: _ => none
  | .blanks, c :: cs => if isSpace c then skipFrom .blanks cs else some (c :: cs)
  | .blanks, [] => some []
  | .lineComment, '\n' :: cs => skipFrom .blanks cs
  | .lineComment, _ :: cs => skipFrom .lineComment cs
  | .lineComment, [] => some []
  | .blockComment depth, '/' :: '*' :: cs => skipFrom (.blockComment (depth + 1)) cs
  | .blockComment 0, '*' :: '/' :: cs => skipFrom .blanks cs
  | .blockComment (depth + 1), '*' :: '/' :: cs => skipFrom (.blockComment depth) cs
  | .blockComment depth, _ :: cs => skipFrom (.blockComment depth) cs
  | .blockComment _, [] => none

/-- What is left of a text after the white space at its front. -/
def skipSpace : List Char → Option (List Char) := skipFrom .blanks

end LectureMachine.Ron
