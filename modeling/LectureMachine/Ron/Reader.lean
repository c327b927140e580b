import LectureMachine.Ron.Number
import LectureMachine.Ron.Lookahead

/-!
# Reading RON

A document has attributes, which ask for extensions, and a value. Values may stand inside each
other, but only down to a fixed depth.
-/

namespace LectureMachine.Ron

variable {α : Type}

/-! ### Lists of parts -/

/-- Reads a mark that white space may precede. -/
def readMark (mark : Char) (s : List Char) : Option (List Char) :=
  match skipSpace s with
  | some (c :: rest) => if c = mark then some rest else none
  | _ => none

/-- Reads items, with commas between them and perhaps one after the last, up to a closing mark. The
rest of a text is never longer than the text, which is checked so that the reading ends. -/
def readItems (item : Reader α) (close : Char) (s : List Char) : Option (List α × List Char) :=
  match skipSpace s with
  | none | some [] => none
  | some (c :: start) =>
    if c = close then some ([], c :: start)
    else
      match item (c :: start) with
      | none => none
      | some (a, rest) =>
        match readMark ',' rest with
        | some rest =>
          if rest.length < s.length then
            (readItems item close rest).map fun (as, rest) => (a :: as, rest)
          else none
        | none => if (readMark close rest).isSome then some ([a], rest) else none
termination_by s.length

/-- Reads items and the closing mark after them. -/
def readList (item : Reader α) (close : Char) : Reader (List α) := fun s => do
  let (items, s) ← readItems item close s
  return (items, ← readMark close s)

/-- Reads two parts with a colon between them. -/
def readPair {β : Type} (first : Reader α) (second : Reader β) : Reader (α × β) := fun s => do
  let (a, s) ← first s
  let s ← readMark ':' s
  let (b, s) ← second (← skipSpace s)
  return ((a, b), s)

/-! ### Values without parts -/

/-- The words that are values of their own. -/
def words : List (List Char × Value) :=
  [ ("true".toList, .bool true), ("false".toList, .bool false), ("None".toList, .absent) ]

/-- Reads a word that is a value, or a number without a finite value. -/
def readWord : Reader Value := fun s =>
  match words.findSome? fun (word, v) => (dropWord word s).map (v, ·) with
  | some found => some found
  | none => (readNotFinite s).map fun (name, rest) => (.float name, rest)

/-- Reads a quotation or a number. -/
def readLiteral : Reader Value := fun s =>
  match readText s with
  | .ok (text, rest) => some (.text text, rest)
  | .error _ =>
    match readBytes s with
    | .ok (text, rest) => some (.bytes text, rest)
    | .error _ =>
      match readChar s with
      | some (c, rest) => some (.char c, rest)
      | none => readNumber s

/-! ### Values with parts -/

/-- The readers of what may stand in a value. -/
structure Inner where
  /-- Reads the content of an optional value, which may use the parentheses around it if it is told
  so. -/
  content : Bool → Reader Value
  /-- Reads a part of a list, a map or a structure. -/
  part : Reader Value

namespace Inner

variable (inner : Inner)

/-- Reads parts with names, up to the closing parenthesis. -/
def readFields (name : Option Name) : Reader Value := fun s => do
  let (fields, s) ← readItems (readPair readName inner.part) ')' s
  return (.record name fields, s)

/-- Reads parts without names, up to the closing parenthesis. -/
def readParts (name : Option Name) : Reader Value := fun s => do
  let (items, s) ← readItems inner.part ')' s
  return (.tuple name items, s)

/-- Whether the parts in parentheses have names. -/
def beginsField (s : List Char) : Bool :=
  match (skipSpace s).bind readName with
  | some (_, rest) => (readMark ':' rest).isSome
  | none => false

/-- Reads a structure from its first part on. -/
def readStructure (name : Option Name) : Reader Value := fun s => do
  let (v, s) ← if beginsField s then inner.readFields name s else inner.readParts name s
  return (v, ← readMark ')' s)

/-- Reads an optional value from the word `Some` on. -/
def readPresent (e : Extensions) : Reader Value := fun s => do
  match ← skipSpace s with
  | '(' :: s =>
    let (v, s) ← inner.content e.unwrapVariantNewtypes (← skipSpace s)
    return (.present v, ← readMark ')' ((readMark ',' s).getD s))
  | s =>
    if e.implicitSome then (inner.content false s).map fun (v, s) => (.present v, s) else none

end Inner

/-- Reads what comes after a name: the parts of a structure, or nothing. -/
def readNamed (inner? : Option Inner) (name : Name) : Reader Value := fun s => do
  match ← skipSpace s with
  | '(' :: rest => (← inner?).readStructure (some name) rest
  | rest => return (.name name, rest)

/-- Reads a value. -/
def readWhole (e : Extensions) (inner? : Option Inner) : Reader Value := fun s =>
  match s with
  | '(' :: ')' :: rest => some (.tuple none [], rest)
  | '(' :: rest => inner?.bind fun inner => inner.readStructure none rest
  | '[' :: rest => do
    let (items, rest) ← readList (← inner?).part ']' rest
    return (.list items, rest)
  | '\x7b' :: rest => do
    let part := (← inner?).part
    let (entries, rest) ← readList (readPair part part) '\x7d' rest
    return (.map entries, rest)
  | _ =>
    match dropWord "Some".toList s with
    | some rest => inner?.bind fun inner => inner.readPresent e rest
    | none =>
      match readWord s with
      | some found => some found
      | none =>
        match readName s with
        | some (name, rest) => readNamed inner? name rest
        | none => readLiteral s

/-- Reads a value that may use the parentheses around it: it is what stands in them if that is more
than one value, or none. -/
def readUnwrapped (e : Extensions) (inner? : Option Inner) : Reader Value := fun s =>
  match s with
  | ')' :: _ => some (.tuple none [], s)
  | _ => do
    match ← contents? s with
    | .one => readWhole e inner? s
    | .several => (← inner?).readParts none s
    | .fields => (← inner?).readFields none s

/-- Reads a value with what stands in it; `unwrapped` if it may use the parentheses around it. -/
def readLayer (e : Extensions) (inner? : Option Inner) (unwrapped : Bool) : Reader Value :=
  if unwrapped then readUnwrapped e inner? else readWhole e inner?

/-- Reads a value. The content of an optional value is one level below it. A list, a map or a
structure takes a level for itself, and its parts are one level below that. -/
def readValue (e : Extensions) : Nat → Bool → Reader Value
  | 0 => readLayer e none
  | 1 => readLayer e (some ⟨readValue e 0, fun _ => none⟩)
  | n + 2 => readLayer e (some ⟨readValue e (n + 1), readValue e n false⟩)

/-- The number of levels in a document. -/
def maxDepth : Nat := 128

/-! ### Documents -/

/-- Adds the extension with the given name, if there is one. -/
def Extensions.add? (e : Extensions) (name : Name) : Option Extensions :=
  if name.text = "implicit_some".toList then some { e with implicitSome := true }
  else if name.text = "explicit_struct_names".toList then
    some { e with explicitStructNames := true }
  else if name.text = "unwrap_variant_newtypes".toList then
    some { e with unwrapVariantNewtypes := true }
  else if name.text = "unwrap_newtypes".toList then some e
  else none

/-- Reads the extensions that an attribute asks for. -/
def readAttribute (s : List Char) : Option (List Name × List Char) := do
  let s ← readMark '#' s
  let s ← readMark '!' s
  let s ← readMark '[' s
  let s ← dropMark "enable".toList (← skipSpace s)
  let s ← readMark '(' s
  let (names, s) ← readList readName ')' s
  if names.isEmpty then none
  else return (names, ← readMark ']' s)
where
  /-- What is left after a mark of several characters. -/
  dropMark (mark s : List Char) : Option (List Char) :=
    if mark.isPrefixOf s then some (s.drop mark.length) else none

/-- Reads all attributes at the front of a text. -/
def readAttributes (e : Extensions) (s : List Char) : Option (Extensions × List Char) :=
  match skipSpace s with
  | none => none
  | some ('#' :: start) =>
    match readAttribute ('#' :: start) with
    | none => none
    | some (names, rest) =>
      match names.foldlM Extensions.add? e with
      | none => none
      | some e => if rest.length < s.length then readAttributes e rest else none
  | some rest => some (e, rest)
termination_by s.length

/-- Reads a whole text. -/
def readDocument (s : List Char) : Option Document := do
  let (extensions, s) ← readAttributes {} s
  let (value, s) ← readValue extensions maxDepth false s
  if (← skipSpace s).isEmpty then return { extensions, value } else none

end LectureMachine.Ron
