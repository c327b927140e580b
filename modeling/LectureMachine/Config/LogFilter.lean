import LectureMachine.Config.Logging
import LectureMachine.Text.Alphanumeric
import LectureMachine.Text.Blank

/-!
# A reader of log filters

A directive of a log filter names the target whose lines it is about, a span with a field of it in
brackets, and after an equals sign the level of the lines that are wanted; each of these may be left
out.

This reader goes no further than to the places at which a directive is cut. It finds its marks in
the text without the blanks around it, but cuts its parts out of the text with them, at the offsets
of the marks. So each cut is as far to the front as there are blanks before the directive, and it
may fall inside a character, where the reader breaks down. What is between the cuts it does not look
at: it makes no difference whether a level or a pattern for the values of a field makes sense.
-/

namespace LectureMachine.LogFilter

/-- Whether a text can be cut after so many bytes, which is to say between two characters. -/
def canCut : List Char → Nat → Bool
  | _, 0 => true
  | [], _ => false
  | c :: text, offset => c.utf8Size ≤ offset && canCut text (offset - c.utf8Size)

/-- How far a directive has been read. An open bracket is known by the offset of what is in it. -/
inductive Progress
  | target
  | span (start : Nat)
  | field (start : Nat)
  | afterField
  | afterSpan
  deriving DecidableEq, Repr

/-- The offsets at which a directive is cut, where `offset` is that of the text to be read. Nothing
more is cut once a mark is out of place, or once the level has begun. -/
def cuts (progress : Progress) (offset : Nat) : List Char → List Nat
  | [] => []
  | c :: text =>
    let next := offset + c.utf8Size
    match progress, c with
    | .target, '=' => [offset, next]
    | .target, '[' => offset :: cuts (.span next) next text
    | .span start, ']' => start :: offset :: cuts .afterSpan next text
    | .span start, '\x7b' => start :: offset :: cuts (.field next) next text
    | .field start, '\x7d' =>
      start :: offset :: if start = offset then [] else cuts .afterField next text
    | .afterField, ']' => cuts .afterSpan next text
    | .afterSpan, '=' => [next]
    | .afterField, _ | .afterSpan, _ => []
    | progress, _ => cuts progress next text

/-- Whether a directive may begin with a character. -/
def mayBegin (c : Char) : Bool :=
  c == '[' || c == '-' || c == ':' || c == '_' || Text.isAlphanumeric c

/-- Whether the program breaks down over a directive. Blanks after it hold no mark and move none. -/
def isFatal (directive : List Char) : Bool :=
  match directive.dropWhile Text.isBlank with
  | [] => false
  | c :: text =>
    mayBegin c && (cuts .target 0 (c :: text)).any fun offset => !canCut directive offset

/-- Whether the program breaks down over a log filter. -/
def breaksDown (filter : String) : Bool :=
  (filter.toList.splitOn ',').any isFatal

/-- A reader that tells of a filter whether it breaks down over it, and takes all others. -/
def reader : FilterReader where
  readStrictly filter := if breaksDown filter then .brokenDown else .taken
  breaksDown := breaksDown

end LectureMachine.LogFilter
