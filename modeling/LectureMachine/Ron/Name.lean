import LectureMachine.Ron.Value
import LectureMachine.Text.Identifier

/-!
# Names

A name begins with a letter or an underscore. A raw name, marked by `r#`, may begin with anything
that can be in a name, and dots, plus and minus signs can be in it as well.
-/

namespace LectureMachine.Ron

/-- Whether a character can be in a raw name. -/
def isRawNameChar (c : Char) : Bool :=
  c == '.' || c == '+' || c == '-' || Text.isNameContinue c

/-- Whether a text begins with the quotation of a text, of bytes or of a single byte. -/
def beginsQuotation : List Char → Bool
  | 'b' :: '"' :: _ => true
  | 'b' :: '\'' :: _ => true
  | 'b' :: 'r' :: '"' :: _ => true
  | 'b' :: 'r' :: '#' :: _ => true
  | 'r' :: '"' :: _ => true
  | 'r' :: '#' :: '"' :: _ => true
  | 'r' :: '#' :: '#' :: _ => true
  | _ => false

/-- Reads a name without a mark. It must not go on like a raw name. -/
def readPlainName : Reader Name := fun s =>
  let text := s.takeWhile Text.isNameContinue
  match s.dropWhile Text.isNameContinue with
  | [] => some (⟨text, false⟩, [])
  | c :: rest => if isRawNameChar c then none else some (⟨text, false⟩, c :: rest)

/-- Reads a name. -/
def readName : Reader Name := fun s =>
  match s with
  | [] => none
  | c :: _ =>
    if !Text.isNameStart c || beginsQuotation s then none
    else
      match s with
      | 'r' :: '#' :: rest =>
        let text := rest.takeWhile isRawNameChar
        if text.isEmpty then none else some (⟨text, true⟩, rest.dropWhile isRawNameChar)
      | _ => readPlainName s

/-- What is left after the given word, if the text begins with it and it ends there. -/
def dropWord (word : List Char) (s : List Char) : Option (List Char) :=
  if word.isPrefixOf s && !((s.drop word.length).head?.any Text.isNameContinue) then
    some (s.drop word.length)
  else none

end LectureMachine.Ron
