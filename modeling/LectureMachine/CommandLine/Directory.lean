import LectureMachine.Text.Utf8

/-!
# Directories

A path names a file by the steps that lead to it. Some steps stay in a directory, one leaves it, and
the others enter what is listed under their name; none leads on from a file.
-/

namespace LectureMachine

/-- What is found under the name of a file. -/
inductive Stored
  | missing
  /-- There is something that cannot be read, such as a directory. -/
  | unreadable
  | file (bytes : List Byte)
  deriving DecidableEq, Repr

/-- The text in a file; there is none if the bytes are not well formed. -/
def Stored.text? : Stored → Option String
  | .file bytes => (Utf8.decode? bytes).map String.ofList
  | _ => none

/-- What can be listed in a directory. -/
inductive Entry
  | file (bytes : List Byte)
  | directory (entries : List (String × Entry))

/-- The size of the longest name, in bytes. -/
def longestName : Nat := 255

/-- The size of the longest path, in bytes. -/
def longestPath : Nat := 4095

/-- What is found at the end of a path's steps, where `above` are the directories that the entry
lies in, the nearest first. There is nothing above the last of them, so a step out of it stays. -/
def Entry.follow (entry : Entry) (above : List Entry) : List String → Stored
  | [] =>
    match entry with
    | .file bytes => .file bytes
    | .directory _ => .unreadable
  | step :: steps =>
    match entry with
    | .file _ => .unreadable
    | .directory entries =>
      if step = "" ∨ step = "." then entry.follow above steps
      else if step = ".." then (above.headD entry).follow above.tail steps
      else if longestName < step.utf8ByteSize then .unreadable
      else
        match entries.lookup step with
        | some next => next.follow (entry :: above) steps
        | none => .missing

/-- A directory that paths start in, and those that it lies in, the nearest first. -/
structure Directory where
  entries : List (String × Entry)
  above : List Entry := []

namespace Directory

/-- What is found under a path. An absolute path starts in the directory that has none above it, and
the empty path leads nowhere. -/
def read (d : Directory) (path : String) : Stored :=
  let here := Entry.directory d.entries
  if path.isEmpty then .missing
  else if longestPath < path.utf8ByteSize then .unreadable
  else if path.startsWith "/" then (d.above.getLastD here).follow [] (path.splitOn "/")
  else here.follow d.above (path.splitOn "/")

end Directory

end LectureMachine
